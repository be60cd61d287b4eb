import MeshNet.Firmware.Catalogue
import MeshNet.Proofs.Bounds.Step
import MeshNet.Proofs.Bounds.Timely
import MeshNet.Proofs.Conservation.Quiet
import MeshNet.Proofs.Conservation.Run
import MeshNet.Proofs.Network.Statistics
import MeshNet.Proofs.Setup.Agreement
import MeshNet.Proofs.Simulation.Arrival
import MeshNet.Proofs.Simulation.Grid

namespace MeshNet

/-- Nodes are started, stopped and removed at the present time. -/
inductive Drive where
  | schedule (e : Event) (time : Time)
  | advance (now : Time)
  | runUntil (last : Time) (stride : UInt64)
  | startAll
  | stopAll
  | remove (id : NodeId)

def Drive.command {φ : Type} (clock : Time) : Drive → Command φ
  | schedule e time => .schedule e time
  | advance now => .advance now
  | runUntil last stride => .runUntil last stride
  | startAll => .startAll clock
  | stopAll => .stopAll clock
  | remove id => .remove id clock

def Drive.NumbersFit : Drive → Prop
  | schedule e _ => e.NumbersFit
  | advance _ | runUntil _ _ | startAll | stopAll | remove _ => True

theorem Groups.length_le_flatten {g : Groups} (h : [] ∉ g) : g.length ≤ g.flatten.length := by
  induction g with
  | nil => exact Nat.le_refl _
  | cons group g ih =>
    have own : 0 < group.length := List.length_pos_iff.mpr fun none => h (none ▸ List.mem_cons_self ..)
    have rest := ih fun member => h (List.mem_cons_of_mem _ member)
    rw [List.flatten_cons, List.length_append, List.length_cons]
    omega

theorem Groups.Valid.length_le {g : Groups} (h : g.Valid) : g.length ≤ UInt32.size := by
  have numbers : (g.flatten.map (·.val.toNat)).Nodup :=
    h.2.2.map fun ⟨a⟩ ⟨b⟩ same => congrArg NodeId.mk (UInt32.toNat_inj.mp same)
  have range : g.flatten.map (·.val.toNat) ⊆ List.range UInt32.size := by
    intro n hn
    obtain ⟨id, -, rfl⟩ := List.mem_map.mp hn
    exact List.mem_range.mpr id.val.toNat_lt
  have most := (List.subperm_of_subset numbers range).length_le
  rw [List.length_map, List.length_range] at most
  exact Nat.le_trans (length_le_flatten h.2.1) most

theorem Network.exists_tells_enqueueAll {n : Network} {log : List Offer} {now : Time}
    {ms : List Message} (h : n.traffic.Tells log) :
    ∃ log, (n.enqueueAll now ms).2.traffic.Tells log := by
  induction ms generalizing n log with
  | nil => exact ⟨log, h⟩
  | cons m ms ih => exact ih (tells_step h (.enqueue m now))

variable {φ : Type}

namespace Fleet.Timely

variable {catalogue : Catalogue φ} {f g : Fleet φ} {now : Time}

theorem create (h : f.Timely now) {spec : NodeSpec} (hc : f.create catalogue spec = .ok g) :
    g.Timely now := by
  rw [Fleet.create] at hc
  split at hc
  · cases hc
  · cases hc
    exact Every.insert h (Node.Timely.fresh rfl rfl now)
  · split at hc
    · cases hc
    · cases hc
      exact Every.insert h (Node.Timely.fresh rfl rfl now)

end Fleet.Timely

namespace Simulation

variable {s s' : Simulation φ}

theorem timely_and_tracked_ofSetup {catalogue : Catalogue φ} {setup : Setup}
    {entropy : Random.Generator} (built : Simulation.ofSetup catalogue setup entropy = .ok s) :
    s.mesh.fleet.Timely s.clock ∧ s.Tracked ∧ s.NumbersFit ∧ s.mesh.network.traffic.Tells [] := by
  obtain ⟨network, hn, built⟩ := exists_of_bind_eq_ok built
  obtain ⟨fleet, hf, built⟩ := exists_of_bind_eq_ok built
  cases built
  obtain ⟨conditions, rfl, force⟩ := Network.exists_inForce_of_ofSetup (eq_ok_of_mapError hn)
  have timely : fleet.Timely 0 := Fleet.createAll_induction Fleet.Every.empty
    (fun _ _ _ h hc => Fleet.Timely.create h hc) (eq_ok_of_mapError hf)
  refine ⟨timely, fun l => ?_, nofun, .empty⟩
  refine Conditions.tracked_of_bursts ?_
  rw [force.calm]
  exact Std.ExtTreeMap.getElem?_empty

variable [Firmware φ]

def drive (s : Simulation φ) (d : Drive) : Checked (Ledger φ × Simulation φ) :=
  s.step (d.command s.clock)

def driveAll : List Drive → Simulation φ → Checked (Ledger φ × Simulation φ)
  | [], s => .ok ({}, s)
  | d :: ds, s => do
    let (ledger, s) ← s.drive d
    let (rest, s) ← driveAll ds s
    return (ledger.append rest, s)

theorem drive_yields (h : s.mesh.fleet.Timely s.clock) (d : Drive) :
    Yields φ (s.drive d) fun r => r.2.mesh.fleet.Timely r.2.clock ∧ s.clock ≤ r.2.clock ∧
      ∀ n ∈ r.1.removed, n.Timely r.2.clock := by
  cases d with
  | schedule e time => exact .of_ok ⟨h, UInt64.le_refl _, nofun⟩
  | advance now =>
    exact (advance_yields h now).bind fun r ⟨timely, later⟩ => .of_ok ⟨timely, later, nofun⟩
  | runUntil last stride =>
    exact (advanceAll_yields h _).bind fun r ⟨timely, later⟩ => .of_ok ⟨timely, later, nofun⟩
  | startAll => exact h.startAll.bind fun r hr => .of_ok ⟨hr, UInt64.le_refl _, nofun⟩
  | stopAll => exact h.stopAll.bind fun r hr => .of_ok ⟨hr, UInt64.le_refl _, nofun⟩
  | remove id =>
    refine (h.remove id).bind fun r hr => .of_ok ⟨hr.2, UInt64.le_refl _, fun n hn => ?_⟩
    exact hr.1 n (Option.mem_toList.mp hn)

theorem driveAll_yields (h : s.mesh.fleet.Timely s.clock) (ds : List Drive) :
    Yields φ (s.driveAll ds) fun r => r.2.mesh.fleet.Timely r.2.clock ∧ s.clock ≤ r.2.clock ∧
      ∀ n ∈ r.1.removed, n.Timely r.2.clock := by
  induction ds generalizing s with
  | nil => exact .of_ok ⟨h, UInt64.le_refl _, nofun⟩
  | cons d ds ih =>
    refine (drive_yields h d).bind fun r ⟨timely, later, removed⟩ => ?_
    refine (ih timely).bind fun q ⟨last, latest, others⟩ => ?_
    refine .of_ok ⟨last, UInt64.le_trans later latest, fun n hn => ?_⟩
    rcases List.mem_append.mp hn with hn | hn
    · exact (removed n hn).mono latest
    · exact others n hn

theorem exists_driveAll (h : s.mesh.fleet.Timely s.clock)
    (silent : ∀ fault, ¬ Firmware.Raises φ fault) (ds : List Drive) : ∃ r, s.driveAll ds = .ok r := by
  have yields := driveAll_yields h ds
  cases hr : s.driveAll ds with
  | ok r => exact ⟨r, rfl⟩
  | error fault =>
    rw [hr] at yields
    exact absurd yields (silent fault)

open Guarded (lift)

def guardedDrive (s : Simulation φ) : Drive → Guarded (Ledger φ × Simulation φ)
  | .advance now => do
    let (report, s) ← s.guardedAdvance now
    return ({ reports := [report.update] }, s)
  | .runUntil last stride => do
    let (reports, s) ← s.guardedAdvanceAll (stepTimes stride last s.clock)
    return ({ reports := reports.map (·.update) }, s)
  | d => lift (s.drive d)

def guardedDriveAll : List Drive → Simulation φ → Guarded (Ledger φ × Simulation φ)
  | [], s => .ok ({}, s)
  | d :: ds, s => do
    let (ledger, s) ← s.guardedDrive d
    let (rest, s) ← guardedDriveAll ds s
    return (ledger.append rest, s)

/-- The sums of a run. Removed nodes have taken theirs along. -/
structure SumsFit (r : Ledger φ × Simulation φ) : Prop where
  mesh : r.2.mesh.SumsFit
  removed : ∀ n ∈ r.1.removed, n.metrics.BytesFit

theorem drive_keeps {P : Network → Prop}
    (step : ∀ (s s' : Simulation φ) now report, P s.mesh.network →
      s.advance now = .ok (report, s') → P s'.mesh.network)
    {d : Drive} {ledger : Ledger φ} (h : P s.mesh.network) (hd : s.drive d = .ok (ledger, s')) :
    P s'.mesh.network := by
  cases d with
  | schedule e time =>
    cases hd
    exact h
  | advance now =>
    obtain ⟨⟨report, next⟩, ha, hd⟩ := Checked.bind_eq_ok.mp hd
    cases hd
    exact step s s' now report h ha
  | runUntil last stride =>
    obtain ⟨⟨reports, next⟩, ha, hd⟩ := Checked.bind_eq_ok.mp hd
    cases hd
    exact advanceAll_induction (P := fun s => P s.mesh.network) step h ha
  | startAll | stopAll | remove id =>
    obtain ⟨⟨reply, fleet⟩, -, hd⟩ := Checked.bind_eq_ok.mp hd
    cases hd
    exact h

theorem Tracked.drive {d : Drive} {ledger : Ledger φ} (h : s.Tracked)
    (hd : s.drive d = .ok (ledger, s')) : s'.Tracked :=
  drive_keeps (P := fun n => n.conditions.AllTracked) (fun _ _ _ _ h step => Tracked.advance h step)
    h hd

theorem exists_tells_advance {log : List Offer} {now : Time} {report : StepReport}
    (h : s.mesh.network.traffic.Tells log) (ha : s.advance now = .ok (report, s')) :
    ∃ log, s'.mesh.network.traffic.Tells log := by
  obtain ⟨verdicts, mesh, update, performed, updated, -⟩ := advance_eq_ok ha
  obtain ⟨reached, fleet, -, -, updated⟩ := Mesh.update_eq_ok updated
  rw [updated]
  have drained : (mesh.network.drain (max s.clock now)).2.traffic.Tells log := by
    rw [Network.drain, (Worklist.perform_quiet performed).traffic]
    exact h
  exact Network.exists_tells_enqueueAll drained

theorem exists_tells_driveAll {ds : List Drive} {ledger : Ledger φ} {log : List Offer}
    (h : s.mesh.network.traffic.Tells log) (hd : s.driveAll ds = .ok (ledger, s')) :
    ∃ log, s'.mesh.network.traffic.Tells log := by
  induction ds generalizing s ledger log with
  | nil =>
    cases hd
    exact ⟨log, h⟩
  | cons d ds ih =>
    obtain ⟨⟨first, next⟩, hf, hd⟩ := Checked.bind_eq_ok.mp hd
    obtain ⟨⟨rest, last⟩, hr, hd⟩ := Checked.bind_eq_ok.mp hd
    cases hd
    obtain ⟨later, told⟩ := drive_keeps (P := fun n => ∃ log, n.traffic.Tells log)
      (fun _ _ _ _ ⟨_, told⟩ step => exists_tells_advance told step) ⟨log, h⟩ hf
    exact ih told hr

theorem NumbersFit.drive {d : Drive} {ledger : Ledger φ} (h : s.NumbersFit) (fits : d.NumbersFit)
    (hd : s.drive d = .ok (ledger, s')) : s'.NumbersFit := by
  cases d with
  | schedule e time =>
    cases hd
    intro w hw
    rcases Timeline.mem_insert.mp hw with rfl | hw
    · exact fits
    · exact h w hw
  | advance now =>
    obtain ⟨⟨report, next⟩, ha, hd⟩ := Checked.bind_eq_ok.mp hd
    cases hd
    exact h.advance ha
  | runUntil last stride =>
    obtain ⟨⟨reports, next⟩, ha, hd⟩ := Checked.bind_eq_ok.mp hd
    cases hd
    exact h.advanceAll ha
  | startAll | stopAll | remove id =>
    obtain ⟨⟨reply, fleet⟩, -, hd⟩ := Checked.bind_eq_ok.mp hd
    cases hd
    exact h

theorem SumsFit.before_drive {d : Drive} {ledger : Ledger φ} (fits : SumsFit (ledger, s'))
    (hd : s.drive d = .ok (ledger, s')) : s.mesh.SumsFit := by
  have sums := fits.mesh
  cases d with
  | schedule e time =>
    cases hd
    exact sums
  | advance now =>
    obtain ⟨⟨report, next⟩, ha, hd⟩ := Checked.bind_eq_ok.mp hd
    cases hd
    exact sumsFit_before_advance sums ha
  | runUntil last stride =>
    obtain ⟨⟨reports, next⟩, ha, hd⟩ := Checked.bind_eq_ok.mp hd
    cases hd
    exact sumsFit_before_advanceAll sums ha
  | startAll =>
    obtain ⟨⟨started, fleet⟩, ha, hd⟩ := Checked.bind_eq_ok.mp hd
    cases hd
    exact ⟨sums.bytes.before (.startAll ha) fun _ _ _ hm => .of_mail (Node.mail_wake hm),
      sums.latencies⟩
  | stopAll =>
    obtain ⟨⟨stopped, fleet⟩, ha, hd⟩ := Checked.bind_eq_ok.mp hd
    cases hd
    exact ⟨sums.bytes.before (.stopAll ha) fun _ _ _ hm => .of_mail (Node.mail_stop hm),
      sums.latencies⟩
  | remove id =>
    obtain ⟨⟨removed, fleet⟩, ha, hd⟩ := Checked.bind_eq_ok.mp hd
    cases hd
    exact ⟨sums.bytes.before_remove (fun n hn => fits.removed n (Option.mem_toList.mpr hn)) ha,
      sums.latencies⟩

theorem SumsFit.before_driveAll {ds : List Drive} {ledger : Ledger φ} (fits : SumsFit (ledger, s'))
    (hd : s.driveAll ds = .ok (ledger, s')) : s.mesh.SumsFit := by
  induction ds generalizing s ledger with
  | nil =>
    cases hd
    exact fits.mesh
  | cons d ds ih =>
    obtain ⟨⟨first, next⟩, hf, hd⟩ := Checked.bind_eq_ok.mp hd
    obtain ⟨⟨rest, last⟩, hr, hd⟩ := Checked.bind_eq_ok.mp hd
    cases hd
    have after : SumsFit (rest, s') :=
      ⟨fits.mesh, fun n hn => fits.removed n (List.mem_append_right _ hn)⟩
    have between : SumsFit (first, next) :=
      ⟨ih after hr, fun n hn => fits.removed n (List.mem_append_left _ hn)⟩
    exact between.before_drive hf

theorem guardedDrive_follows (h : s.Tracked) (d : Drive) :
    Follows (fun r => s.NumbersFit ∧ SumsFit r) (s.guardedDrive d) (s.drive d) := by
  cases d with
  | advance now =>
    refine (guardedAdvance_follows h now).bind (fun ⟨report, next⟩ _ => .of_lift _ (.ok _))
      fun r b _ hb fits => ?_
    cases hb
    exact ⟨fits.1, fits.2.mesh⟩
  | runUntil last stride =>
    refine (guardedAdvanceAll_follows h _).bind (fun ⟨reports, next⟩ _ => .of_lift _ (.ok _))
      fun r b _ hb fits => ?_
    cases hb
    exact ⟨fits.1, fits.2.mesh⟩
  | schedule e time | startAll | stopAll | remove id => exact .of_lift _ _

theorem guardedDriveAll_follows (h : s.Tracked) (ds : List Drive) :
    Follows (fun r => s.NumbersFit ∧ (∀ d ∈ ds, d.NumbersFit) ∧ SumsFit r) (s.guardedDriveAll ds)
      (s.driveAll ds) := by
  induction ds generalizing s with
  | nil => exact .of_lift _ (.ok (({} : Ledger φ), s))
  | cons d ds ih =>
    refine (guardedDrive_follows h d).bind (fun ⟨ledger, next⟩ hd => ?_)
      fun ⟨ledger, next⟩ b hd hb fits => ?_
    · refine (ih (h.drive hd)).bind (fun q _ => .of_lift _ (.ok (ledger.append q.1, q.2)))
        fun q b _ hb fits => ?_
      obtain ⟨pending, numbers, sums⟩ := fits
      cases hb
      exact ⟨pending.drive (numbers d (List.mem_cons_self ..)) hd,
        fun e he => numbers e (List.mem_cons_of_mem _ he), sums.mesh,
        fun n hn => sums.removed n (List.mem_append_right _ hn)⟩
    · obtain ⟨⟨rest, last⟩, hr, hb⟩ := Checked.bind_eq_ok.mp hb
      obtain ⟨pending, -, sums⟩ := fits
      cases hb
      have after : SumsFit (rest, last) :=
        ⟨sums.mesh, fun n hn => sums.removed n (List.mem_append_right _ hn)⟩
      exact ⟨pending, after.before_driveAll hr, fun n hn => sums.removed n (List.mem_append_left _ hn)⟩

/-- The sums of latencies and of bytes are those at the end of the run, since they only grow. -/
theorem driven_runs_stay_in_bounds {catalogue : Catalogue φ} {setup : Setup}
    {entropy : Random.Generator} {s₀ : Simulation φ}
    (built : Simulation.ofSetup catalogue setup entropy = .ok s₀) (ds : List Drive) :
    (∀ fault, s₀.driveAll ds = .error fault → Firmware.Raises φ fault) ∧
    ((∀ fault, ¬ Firmware.Raises φ fault) → ∃ r, s₀.driveAll ds = .ok r) ∧
    (s₀.guardedDriveAll ds = lift (s₀.driveAll ds) ∨
      ∃ w n, Word.size w ≤ n ∧ s₀.guardedDriveAll ds = .error (.overflow w n)) ∧
    (∀ ledger s, s₀.driveAll ds = .ok (ledger, s) →
      ((∀ d ∈ ds, d.NumbersFit) → SumsFit (ledger, s) →
        s₀.guardedDriveAll ds = .ok (ledger, s)) ∧
      (s.mesh.network.traffic.total.total < 2 ^ 64 →
        s.mesh.network.traffic.guardedTotal = .ok s.mesh.network.traffic.total) ∧
      (s.mesh.network.traffic.total.delivered ≤ 2 ^ 32 →
        s.mesh.network.traffic.total.total < 2 ^ 64 ∧ s.mesh.network.LatenciesFit) ∧
      s₀.clock ≤ s.clock ∧
      ∀ n, (∃ id, s.mesh.fleet.find? id = some n) ∨ n ∈ ledger.removed →
        ∀ now, s.clock ≤ now → ∃ t, n.totalUptime now = .ok t ∧ t ≤ now) ∧
    (∀ stride (last now : Time), now < last → now < nextStep stride last now ∧
      (nextStep stride last now).toNat = min (now.toNat + max stride.toNat 1) last.toNat) ∧
    (∀ stats : LinkStats, stats.guardedAverage = .ok stats.average) ∧
    ∀ groups : Groups, groups.Valid → groups.length ≤ 2 ^ 32 := by
  obtain ⟨timely, tracked, numbers, told⟩ := timely_and_tracked_ofSetup built
  have yields := driveAll_yields timely ds
  have follows := guardedDriveAll_follows tracked ds
  refine ⟨fun fault hf => ?_, fun silent => exists_driveAll timely silent ds,
    follows.eq_lift_or_overflow, fun ledger s hs => ?_,
    fun stride last now h => ⟨lt_nextStep stride h, ?_⟩, LinkStats.guardedAverage_eq,
    fun groups valid => valid.length_le⟩
  · rw [hf] at yields
    exact yields
  · obtain ⟨log, told⟩ := exists_tells_driveAll told hs
    obtain ⟨last, later, removed⟩ := yields.of_eq_ok hs
    refine ⟨fun fit sums => follows.eq_ok hs ⟨numbers, fit, sums⟩, fun fits => ?_, told.total_lt,
      later, fun n hn now passed => ?_⟩
    · exact s.mesh.network.traffic.guardedTotal_follows.eq_ok rfl fits
    · have past : n.Timely s.clock := by
        rcases hn with ⟨id, hn⟩ | hn
        · exact last id n hn
        · exact removed n hn
      exact (past.mono passed).totalUptime
  · exact toNat_nextStep stride (Nat.le_of_lt (UInt64.lt_iff_toNat_lt.mp h))

theorem driven_runs_stay_in_bounds_invalid_events :
    let l : Link := ⟨⟨1⟩, ⟨2⟩⟩
    let loss : LossModel := { probability := 0.5, burstMode := true, burstLength := 3 }
    let client : NodeSpec :=
      { id := ⟨2⟩, firmware := "echo-client", settings := .ofList [("request_interval", "5")] }
    let setup : Setup :=
      { network := { seed := some 2, defaultLatency := .fixed 3, defaultLoss := loss },
        nodes := [{ id := ⟨1⟩, firmware := "echo-server" }, client] }
    let ds : List Drive :=
      [.startAll, .schedule (.degrade l 20 2.0) 4, .schedule (.partition [[⟨1⟩]]) 0, .runUntil 20 6,
        .schedule (.crash ⟨2⟩) 9, .advance 3, .remove ⟨1⟩, .stopAll]
    ∃ s₀ ledger s, Simulation.ofSetup .builtins setup (.ofSeed 0) = .ok s₀ ∧
      s₀.driveAll ds = .ok (ledger, s) ∧ (∀ d ∈ ds, d.NumbersFit) ∧ SumsFit (ledger, s) ∧
      s₀.guardedDriveAll ds = .ok (ledger, s) ∧
      s.mesh.network.traffic.guardedTotal = .ok s.mesh.network.traffic.total ∧
      s.mesh.network.traffic.total.delivered = 3 ∧ s.mesh.network.traffic.total.total = 9 ∧
      s.clock = 20 ∧ s.agenda.failures.length = 2 ∧
      ∀ n ∈ ledger.removed, ∃ t, n.totalUptime s.clock = .ok t ∧ t ≤ s.clock := by
  intro l loss client setup ds
  have numbers : ∀ d ∈ ds, d.NumbersFit := by
    simp [ds, Drive.NumbersFit, Event.NumbersFit, Groups.Valid]
  let facts (r : Ledger Builtin × Simulation Builtin) : Time × Nat × Nat × Nat × Bool :=
    (r.2.clock, r.2.agenda.failures.length, r.2.mesh.network.traffic.total.delivered,
      r.2.mesh.network.traffic.total.total, (r.2.mesh.fleet.toList ++ r.1.removed).all fun n =>
        n.metrics.bytesSent < UInt64.size ∧ n.metrics.bytesReceived < UInt64.size)
  have ends : ((Simulation.ofSetup .builtins setup (.ofSeed 0)).map fun s₀ =>
      facts <$> s₀.driveAll ds) = .ok (.ok (20, 2, 3, 9, true)) := by
    decide +kernel
  obtain ⟨s₀, built, run⟩ := exists_of_map_eq_ok ends
  obtain ⟨⟨ledger, s⟩, hs, counts⟩ := Checked.map_eq_ok.mp run
  simp only [facts, Prod.mk.injEq, List.all_eq_true, decide_eq_true_eq] at counts
  obtain ⟨clock, failures, delivered, sum, bytes⟩ := counts
  obtain ⟨-, -, -, completed, -⟩ := driven_runs_stay_in_bounds built ds
  obtain ⟨follows, total, latencies, -, uptimes⟩ := completed ledger s hs
  obtain ⟨small, each⟩ := latencies (delivered ▸ by decide)
  have sums : SumsFit (ledger, s) := by
    refine ⟨⟨fun id n hn => ?_, each⟩, fun n hn => ?_⟩
    · obtain ⟨sent, received⟩ := bytes n (List.mem_append_left _ (Fleet.mem_toList.mpr ⟨id, hn⟩))
      exact ⟨sent, received⟩
    · obtain ⟨sent, received⟩ := bytes n (List.mem_append_right _ hn)
      exact ⟨sent, received⟩
  exact ⟨s₀, ledger, s, built, hs, numbers, sums, follows numbers sums, total small, delivered, sum,
    clock, failures, fun n hn => uptimes n (.inr hn) s.clock (UInt64.le_refl _)⟩

end Simulation

end MeshNet
