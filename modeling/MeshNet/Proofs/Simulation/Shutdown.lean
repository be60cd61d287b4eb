import MeshNet.Proofs.Bounds.Law
import MeshNet.Proofs.Fleet.LastSeen
import MeshNet.Proofs.Simulation.History

namespace MeshNet

variable {φ : Type}

def Node.Closed (now : Time) (n m : Node φ) : Prop :=
  ∃ uptime, n.totalUptime now = .ok uptime ∧
    m = { n with session := none, metrics := { n.metrics with uptime } }

namespace Node

variable {n m : Node φ} {now : Time}

theorem closed_of_stop (h : n.stop now = .ok m) : Closed now n m := by
  rw [stop_eq] at h
  obtain ⟨uptime, total, rfl⟩ := Checked.map_eq_ok.mp h
  exact ⟨uptime, total, rfl⟩

theorem Closed.stopped (h : Closed now n m) : m.session = none := by
  obtain ⟨uptime, -, rfl⟩ := h
  rfl

theorem Closed.of_stopped (h : Closed now n m) (stopped : n.isRunning = false) : m = n := by
  have idle : n.session = none := by simpa [isRunning] using stopped
  obtain ⟨uptime, total, rfl⟩ := h
  rw [totalUptime, idle] at total
  cases total
  rw [← idle]

end Node

namespace Fleet

variable {f g : Fleet φ} {now : Time}

theorem exists_each {act : Node φ → Checked (Node φ)}
    (h : f.Every fun _ n => ∃ m, act n = .ok m) : ∃ g, f.each act = .ok g := by
  cases he : f.each act with
  | ok g => exact ⟨g, rfl⟩
  | error fault =>
    obtain ⟨id, n, hn, failed⟩ := exists_of_each_eq_error he
    obtain ⟨m, hm⟩ := h id n hn
    cases hm.symm.trans failed

theorem each_of_same {act : Node φ → Checked (Node φ)} (h : f.Every fun _ n => act n = .ok n) :
    f.each act = .ok f := by
  obtain ⟨g, hg⟩ := exists_each fun id n hn => ⟨n, h id n hn⟩
  have acted := Nodewise.each hg
  have same : g = f := by
    refine ext (fun id => ?_) acted.retired (lastSeen_each hg)
    cases hn : f.find? id with
    | none => exact acted.missing id hn
    | some n =>
      obtain ⟨m, hm, done⟩ := acted.present id n hn
      rw [h id n hn] at done
      cases done
      exact hm
  rw [hg, same]

def Stopped (f : Fleet φ) : Prop := f.Every fun _ n => n.session = none

theorem Stopped.running (h : f.Stopped) : f.running = 0 := by
  rw [Fleet.running, List.length_eq_zero_iff, List.eq_nil_iff_forall_not_mem]
  intro id member
  rw [mem_runningIds, runs, Option.any_eq_true] at member
  obtain ⟨n, hn, running⟩ := member
  rw [Node.isRunning, h id n hn] at running
  cases running

theorem Stopped.stopAll (h : f.Stopped) (now : Time) : f.stopAll now = .ok (0, f.observe now) := by
  have idle : (f.observe now).Every fun _ n => n.stop now = .ok n := fun id n hn =>
    Node.stop_of_stopped (h id n hn) now
  rw [Fleet.stopAll, each_of_same idle, h.running]
  rfl

theorem Timely.exists_stopAll (h : f.Timely now) : ∃ g, f.stopAll now = .ok (f.running, g) := by
  have stops : (f.observe now).Every fun _ n => ∃ m, n.stop now = .ok m := fun id n hn => by
    obtain ⟨m, hm, -⟩ := (h id n hn).stop
    exact ⟨m, hm⟩
  obtain ⟨g, hg⟩ := exists_each stops
  exact ⟨g, by rw [Fleet.stopAll, hg]; rfl⟩

theorem Timely.exists_shutdown (h : f.Timely f.lastSeen) :
    ∃ g, f.shutdown = .ok (f.running, g) ∧ Nodewise (fun _ n m => Node.Closed f.lastSeen n m) f g ∧
      g.lastSeen = f.lastSeen ∧ g.Stopped ∧ g.shutdown = .ok (0, g) := by
  obtain ⟨g, hg⟩ := h.exists_stopAll
  have closed : Nodewise (fun _ n m => Node.Closed f.lastSeen n m) f g :=
    (Nodewise.stopAll hg).mono fun _ _ _ => Node.closed_of_stop
  have seen : g.lastSeen = f.lastSeen :=
    (lastSeen_stopAll hg).trans (Time.max_self _)
  have stopped : g.Stopped := by
    intro id m hm
    cases hn : f.find? id with
    | none => cases (closed.missing id hn).symm.trans hm
    | some n => exact (closed.rel hn hm).stopped
  refine ⟨g, hg, closed, seen, stopped, ?_⟩
  rw [Fleet.shutdown, stopped.stopAll, Fleet.observe, Time.max_self]

end Fleet

variable [Firmware φ]

namespace Node.Timely

theorem step {n m : Node φ} {op : LifecycleOp} (h : n.Timely op.time)
    (hs : (·.2) <$> n.step op = .ok m) : m.Timely op.time := by
  have done := step_eq_ok hs
  cases op with
  | start now => exact h.bootIfStopped.of_eq_ok done
  | stop now =>
    obtain ⟨k, hk, -, timely⟩ := h.stop
    cases hk.symm.trans done
    exact timely
  | crash now =>
    obtain ⟨k, hk, timely⟩ := h.crash
    cases hk.symm.trans done
    exact timely
  | restart now => exact h.reboot.of_eq_ok done

end Node.Timely

namespace Fleet.Timely

variable {f g : Fleet φ} {now : Time}

theorem step (h : f.Timely now) (seen : f.lastSeen = now) {op : FleetOp φ}
    (told : ∀ t ∈ op.time?, t = now) (hs : f.step op = .ok g) : g.Timely now := by
  cases op with
  | add id =>
    cases hs
    cases ha : f.add id with
    | error e => exact h
    | ok g =>
      have gains := gains_of_add ha
      intro i n hn
      by_cases new : i = id
      · subst new
        cases hn.symm.trans gains.after
        exact .fresh rfl rfl now
      · exact h i n ((gains.others i new).symm.trans hn)
  | create catalogue spec =>
    cases hs
    cases hc : f.create catalogue spec with
    | error e => exact h
    | ok g => exact h.create hc
  | remove id time =>
    obtain rfl := told time rfl
    obtain ⟨r, hr, rfl⟩ := Checked.map_eq_ok.mp hs
    exact ((h.remove id).of_eq_ok hr).2
  | startAll time =>
    obtain rfl := told time rfl
    obtain ⟨r, hr, rfl⟩ := Checked.map_eq_ok.mp hs
    exact h.startAll.of_eq_ok hr
  | stopAll time =>
    obtain rfl := told time rfl
    obtain ⟨r, hr, rfl⟩ := Checked.map_eq_ok.mp hs
    exact h.stopAll.of_eq_ok hr
  | shutdown =>
    obtain ⟨r, hr, rfl⟩ := Checked.map_eq_ok.mp hs
    rw [shutdown, seen] at hr
    exact h.stopAll.of_eq_ok hr
  | call id op =>
    obtain rfl := told op.time rfl
    exact Every.revise h hs fun _ _ hn => hn.step
  | adjustTime id time offset =>
    obtain rfl := told time rfl
    exact Every.revise h hs fun _ _ hn hm => (hn.call _).of_eq_ok hm

end Fleet.Timely

theorem Mesh.timely_step {mesh mesh' : Mesh φ} {now : Time} {op : MeshOp φ} {events : List Event}
    (h : mesh.fleet.Timely now) (seen : mesh.fleet.lastSeen = now) (told : ∀ t ∈ op.time?, t = now)
    (hs : mesh.step op = .ok (events, mesh')) : mesh'.fleet.Timely now := by
  cases op with
  | execute e time =>
    obtain rfl := told time rfl
    obtain ⟨⟨verdict, next⟩, performed, hs⟩ := Checked.bind_eq_ok.mp hs
    cases hs
    exact (Event.perform_yields h e).of_eq_ok performed
  | update time =>
    obtain rfl := told time rfl
    obtain ⟨⟨report, next⟩, updated, hs⟩ := Checked.bind_eq_ok.mp hs
    cases hs
    exact (Mesh.update_yields h).of_eq_ok updated
  | network op =>
    cases hs
    exact h
  | fleet op =>
    obtain ⟨fleet, stepped, hs⟩ := Checked.bind_eq_ok.mp hs
    cases hs
    exact h.step seen told stepped

def SimulationOp.KeepsTime (clock : Time) : SimulationOp φ → Prop
  | mesh op => ∀ t ∈ op.time?, t = clock
  | schedule _ _ | clearAgenda | takeFailures | advance _ | runUntil _ _ => True

instance (clock : Time) : (op : SimulationOp φ) → Decidable (op.KeepsTime clock)
  -- The search for an instance would come up with a trial of all times.
  | .mesh op => Option.decidableForallMem op.time?
  | .schedule _ _ | .clearAgenda | .takeFailures | .advance _ | .runUntil _ _ =>
    inferInstanceAs (Decidable True)

namespace Simulation

def KeepsTime (s : Simulation φ) : List (SimulationOp φ) → Prop
  | [] => True
  | op :: ops => op.KeepsTime s.clock ∧ ∀ next ∈ (s.operate op).toOption, next.KeepsTime ops

instance decidableKeepsTime :
    (s : Simulation φ) → (ops : List (SimulationOp φ)) → Decidable (s.KeepsTime ops)
  | _, [] => inferInstanceAs (Decidable True)
  | _, _ :: ops =>
    have := fun next : Simulation φ => decidableKeepsTime next ops
    inferInstanceAs (Decidable (_ ∧ ∀ next ∈ _, _))

omit [Firmware φ] in
inductive New : Simulation φ → Prop where
  | ofNetwork (network : Network) : New (.ofNetwork network)
  | ofSetup {catalogue : Catalogue φ} {setup : Setup} {entropy : Random.Generator}
      {s : Simulation φ} (built : Simulation.ofSetup catalogue setup entropy = .ok s) : New s

structure InStep (s : Simulation φ) : Prop where
  lastSeen : s.mesh.fleet.lastSeen = s.clock
  timely : s.mesh.fleet.Timely s.clock

namespace InStep

variable {s s' : Simulation φ}

theorem advance (h : s.InStep) {now : Time} {report : StepReport}
    (ha : s.advance now = .ok (report, s')) : s'.InStep := by
  refine ⟨?_, ((advance_yields h.timely now).of_eq_ok ha).1⟩
  obtain ⟨verdicts, mesh, update, performed, updated, -, clock, -⟩ := advance_eq_ok ha
  -- The fleet hears of the new time only by the update, once the events are over.
  have unseen : mesh.fleet.lastSeen = s.clock := by
    refine Mesh.steps_keep (P := fun mesh => mesh.fleet.lastSeen = s.clock) ?_ h.lastSeen
      (Mesh.steps_of_perform performed)
    intro op member before after events seen step
    obtain ⟨task, -, rfl⟩ := List.mem_map.mp member
    exact (Mesh.lastSeen_execute step).trans seen
  rw [Mesh.lastSeen_update updated, unseen, clock]
  exact Time.max_eq_right (Time.le_max_left _ _)

theorem advanceAll (h : s.InStep) {times : List Time} {reports : List StepReport}
    (ha : s.advanceAll times = .ok (reports, s')) : s'.InStep :=
  advanceAll_induction (fun _ _ _ _ h step => advance h step) h ha

theorem operate (h : s.InStep) {op : SimulationOp φ} (keeps : op.KeepsTime s.clock)
    (ho : s.operate op = .ok s') : s'.InStep := by
  cases op with
  | schedule e time | clearAgenda | takeFailures =>
    cases ho
    exact ⟨h.lastSeen, h.timely⟩
  | advance now =>
    obtain ⟨⟨report, next⟩, ha, rfl⟩ := Checked.map_eq_ok.mp ho
    exact h.advance ha
  | runUntil last stride =>
    obtain ⟨⟨reports, next⟩, ha, rfl⟩ := Checked.map_eq_ok.mp ho
    exact h.advanceAll ha
  | mesh op =>
    obtain ⟨⟨events, next⟩, step, rfl⟩ := Checked.map_eq_ok.mp ho
    refine ⟨?_, Mesh.timely_step h.timely h.lastSeen keeps step⟩
    rcases Mesh.lastSeen_step step with unseen | ⟨t, told, seen⟩
    · exact unseen.trans h.lastSeen
    · rw [keeps t told, h.lastSeen] at seen
      exact seen.trans (Time.max_self _)

theorem operateAll (h : s.InStep) {ops : List (SimulationOp φ)} (keeps : s.KeepsTime ops)
    (ho : s.operateAll ops = .ok s') : s'.InStep := by
  induction ops generalizing s with
  | nil =>
    cases ho
    exact h
  | cons op ops ih =>
    obtain ⟨next, first, rest⟩ := Checked.bind_eq_ok.mp ho
    exact ih (h.operate keeps.1 first) (keeps.2 next (by rw [first]; rfl)) rest

end InStep

omit [Firmware φ] in
theorem New.inStep {s : Simulation φ} (h : s.New) : s.InStep := by
  cases h with
  | ofNetwork network => exact ⟨rfl, Fleet.Every.empty⟩
  | ofSetup built =>
    have timely := (timely_and_tracked_ofSetup built).1
    obtain ⟨network, -, built⟩ := exists_of_bind_eq_ok built
    obtain ⟨fleet, created, built⟩ := exists_of_bind_eq_ok built
    cases built
    have unseen : fleet.lastSeen = 0 :=
      Fleet.createAll_induction (P := fun f => f.lastSeen = 0) rfl
        (fun _ _ _ h hc => (Fleet.gains_of_create hc).lastSeen.trans h) (eq_ok_of_mapError created)
    exact ⟨unseen, timely⟩

theorem shutdown_credits_sessions_in_full {s₀ s : Simulation φ} {ops : List (SimulationOp φ)}
    (new : s₀.New) (keeps : s₀.KeepsTime ops) (run : s₀.operateAll ops = .ok s) :
    ∃ g, s.mesh.fleet.shutdown = .ok (s.mesh.fleet.running, g) ∧
      Fleet.Nodewise
        (fun _ n m => m.isRunning = false ∧ (n.isRunning = false → m = n) ∧
          ∃ uptime, n.totalUptime s.clock = .ok uptime ∧ uptime ≤ s.clock ∧
            m = { n with session := none, metrics := { n.metrics with uptime } })
        s.mesh.fleet g ∧
      g.lastSeen = s.clock ∧ g.running = 0 ∧ g.shutdown = .ok (0, g) := by
  obtain ⟨seen, timely⟩ := new.inStep.operateAll keeps run
  rw [← seen] at timely
  obtain ⟨g, closes, nodewise, unchanged, stopped, again⟩ := timely.exists_shutdown
  refine ⟨g, closes, ⟨nodewise.missing, fun id n hn => ?_, nodewise.retired⟩, unchanged.trans seen,
    stopped.running, again⟩
  obtain ⟨m, hm, closed⟩ := nodewise.present id n hn
  have idle : m.isRunning = false := by rw [Node.isRunning, closed.stopped]; rfl
  have kept : n.isRunning = false → m = n := Node.Closed.of_stopped closed
  obtain ⟨uptime, total, left⟩ := closed
  obtain ⟨t, ht, within⟩ := (timely id n hn).totalUptime
  cases total.symm.trans ht
  rw [seen] at total within
  exact ⟨m, hm, idle, kept, uptime, total, within, left⟩

theorem shutdown_credits_sessions_in_full_after_crash_and_backward_step :
    let s₀ : Simulation Builtin := .seeded 1
    let ops : List (SimulationOp Builtin) :=
      [.mesh (.fleet (.add ⟨1⟩)),
        .mesh (.fleet (.create .builtins { id := ⟨2⟩, firmware := "echo-client" })),
        .mesh (.fleet (.add ⟨3⟩)), .mesh (.fleet (.add ⟨4⟩)), .mesh (.fleet (.startAll 0)),
        .schedule (.crash ⟨2⟩) 40, .schedule (.restart ⟨3⟩) 55, .advance 50, .advance 20,
        .mesh (.fleet (.remove ⟨4⟩ 50)), .schedule (.start ⟨2⟩) 75, .runUntil 100 30]
    s₀.New ∧ s₀.KeepsTime ops ∧ ∃ s g, s₀.operateAll ops = .ok s ∧ s.clock = 100 ∧
      s.mesh.fleet.shutdown = .ok (3, g) ∧ g.lastSeen = 100 ∧ g.shutdown = .ok (0, g) ∧
      ∃ m, g.find? ⟨2⟩ = some m ∧ m.isRunning = false ∧ m.metrics.uptime = 70 ∧
        m.metrics.crashes = 1 := by
  intro s₀ ops
  have new : s₀.New := .ofNetwork _
  have keeps : s₀.KeepsTime ops := by
    decide +kernel
  have facts : (fun s => (s.clock, s.mesh.fleet.running, (s.mesh.fleet.find? ⟨2⟩).map fun n =>
      (n.metrics.crashes, (n.totalUptime s.clock).toOption))) <$> s₀.operateAll ops =
        .ok (100, 3, some (1, some 70)) := by
    decide +kernel
  obtain ⟨s, run, told⟩ := Checked.map_eq_ok.mp facts
  obtain ⟨clock, running, second⟩ : s.clock = 100 ∧ s.mesh.fleet.running = 3 ∧
      (s.mesh.fleet.find? ⟨2⟩).map (fun n =>
        (n.metrics.crashes, (n.totalUptime s.clock).toOption)) = some (1, some 70) := by
    simpa only [Prod.mk.injEq] using told
  obtain ⟨n, hn, counts⟩ := Option.map_eq_some_iff.mp second
  obtain ⟨g, closes, nodewise, seen, -, again⟩ := shutdown_credits_sessions_in_full new keeps run
  obtain ⟨m, hm, idle, -, uptime, total, -, left⟩ := nodewise.present _ n hn
  rw [total, Prod.mk.injEq] at counts
  obtain ⟨crashes, counted⟩ := counts
  cases counted
  exact ⟨new, keeps, s, g, run, clock, running ▸ closes, clock ▸ seen, again, m, hm, idle,
    by rw [left], by rw [left]; exact crashes⟩

end Simulation

end MeshNet
