import MeshNet.Proofs.Bounds.Sums
import MeshNet.Proofs.Reach.Run

namespace MeshNet

open Guarded (lift)

variable {φ : Type} [Firmware φ]

namespace Node

open Metrics (BytesFit)

def guardedDeliver (n : Node φ) (now : Time) (m : Message) : Guarded (Option (Node φ)) :=
  if n.isRunning then do
    let metrics ← n.metrics.guardedReceive m.payload
    lift (some <$> { n with metrics }.call now (.receive m.link.source m.payload))
  else .ok none

omit [Firmware φ] in
def guardedFlush (n : Node φ) : Guarded (Node φ) := do
  let metrics ← n.metrics.guardedSend n.outbox
  return { n.flush with metrics }

theorem guardedDeliver_follows (n : Node φ) (now : Time) (m : Message) :
    Follows (fun r => ∀ k ∈ r, k.metrics.BytesFit) (n.guardedDeliver now m) (n.deliver now m) := by
  rw [guardedDeliver, deliver]
  split
  · let react (metrics : Metrics) :=
      some <$> { n with metrics }.call now (.receive m.link.source m.payload)
    refine (n.metrics.guardedReceive_follows m.payload).bind (f := react)
      (fun metrics _ => .of_lift _ (react metrics)) fun metrics r _ hr fits => ?_
    obtain ⟨k, hk, rfl⟩ := Checked.map_eq_ok.mp hr
    have counted : k.metrics = metrics := by
      obtain ⟨device, sent, rfl⟩ := call_eq_ok hk
      rfl
    exact counted ▸ fits k rfl
  · exact .of_lift _ (.ok none)

omit [Firmware φ] in
theorem guardedFlush_follows (n : Node φ) :
    Follows (fun k => k.metrics.BytesFit) n.guardedFlush (.ok n.flush) := by
  refine (n.metrics.guardedSend_follows n.outbox).bind
    (f := fun metrics => .ok { n.flush with metrics })
    (fun metrics _ => .of_lift _ (.ok { n.flush with metrics })) fun metrics k _ hk fits => ?_
  cases hk
  exact fits

variable {n m : Node φ} {now : Time}

theorem grows_takeAll {mail : List Message} (h : n.takeAll now mail = .ok m) :
    n.metrics.Grows m.metrics := by
  induction mail generalizing n with
  | nil =>
    cases h
    exact .of_mail rfl
  | cons message mail ih =>
    rw [takeAll, List.foldlM_cons] at h
    obtain ⟨k, hk, h⟩ := Checked.bind_eq_ok.mp h
    refine .trans ?_ (ih h)
    obtain ⟨received, hd, rfl⟩ := Checked.map_eq_ok.mp hk
    cases received with
    | none => exact .of_mail rfl
    | some k =>
      have counted := mail_deliver hd
      exact ⟨Nat.le.intro (counted .bytesSent).symm, Nat.le.intro (counted .bytesReceived).symm⟩

omit [Firmware φ] in
theorem grows_flush (n : Node φ) : n.metrics.Grows n.flush.metrics :=
  ⟨Nat.le_add_right _ _, Nat.le_refl _⟩

theorem mail_wake (h : n.wake now = .ok m) : m.metrics.mail = n.metrics.mail := by
  rw [wake] at h
  split at h
  · cases h
    rfl
  · exact mail_boot h

end Node

namespace Fleet

variable {f g : Fleet φ} {now : Time}

def BytesFit (f : Fleet φ) : Prop := f.Every fun _ n => n.metrics.BytesFit

omit [Firmware φ] in
theorem BytesFit.before {R : NodeId → Node φ → Node φ → Prop} (fits : g.BytesFit)
    (h : Nodewise R f g) (grown : ∀ id n m, R id n m → n.metrics.Grows m.metrics) : f.BytesFit := by
  intro id n hn
  obtain ⟨m, hm, hr⟩ := h.present id n hn
  exact (fits id m hm).before (grown id n m hr)

omit [Firmware φ] in
theorem BytesFit.before_remove {id : NodeId} {removed : Option (Node φ)} (fits : g.BytesFit)
    (taken : ∀ n ∈ removed, n.metrics.BytesFit) (h : f.remove id now = .ok (removed, g)) :
    f.BytesFit := by
  rw [remove] at h
  split at h
  · cases h
    exact fits
  · next n hn =>
    obtain ⟨m, hm, h⟩ := Checked.bind_eq_ok.mp h
    cases h
    intro i k hk
    by_cases own : i = id
    · subst own
      obtain rfl := Option.some.inj (hn.symm.trans hk)
      exact (taken m rfl).before (.of_mail (Node.mail_stop hm))
    · refine fits i k ?_
      rw [find?_erase, if_neg own]
      exact hk

def guardedDeliver (f : Fleet φ) (now : Time) (m : Message) : Guarded (Bool × Fleet φ) :=
  match f.find? m.link.target with
  | none => .ok (false, f)
  | some n => do
    match ← n.guardedDeliver now m with
    | none => return (false, f)
    | some n => return (true, { f with nodes := f.nodes.insert m.link.target n })

def guardedDeliverAll (now : Time) : List Message → Fleet φ → Guarded (List Bool × Fleet φ)
  | [], f => .ok ([], f)
  | m :: ms, f => do
    let (reached, f) ← f.guardedDeliver now m
    let (rest, f) ← guardedDeliverAll now ms f
    return (reached :: rest, f)

omit [Firmware φ] in
def guardedFlush (f : Fleet φ) : Guarded (Fleet φ) := do
  f.toList.forM fun n => discard n.guardedFlush
  return f.map .flush

theorem guardedDeliver_follows (f : Fleet φ) (now : Time) (m : Message) :
    Follows (·.2.BytesFit) (f.guardedDeliver now m) (f.deliver now m) := by
  rw [guardedDeliver, deliver]
  cases hn : f.find? m.link.target with
  | none => exact .of_lift _ (.ok (false, f))
  | some n =>
    refine (n.guardedDeliver_follows now m).bind (fun r _ => ?_) fun r b _ hb fits k hk => ?_
    · cases r with
      | none => exact .of_lift _ (.ok (false, f))
      | some k => exact .of_lift _ (.ok (true, { f with nodes := f.nodes.insert m.link.target k }))
    · cases hk
      cases hb
      refine fits m.link.target k ?_
      rw [find?_insert, if_pos rfl]

theorem guardedDeliverAll_follows (now : Time) (ms : List Message) (f : Fleet φ) :
    Follows (·.2.BytesFit) (guardedDeliverAll now ms f) (deliverAll now ms f) := by
  induction ms generalizing f with
  | nil => exact .of_lift _ (.ok ([], f))
  | cons m ms ih =>
    refine (f.guardedDeliver_follows now m).bind (fun r _ => ?_) fun r b _ hb fits => ?_
    · refine (ih r.2).bind (fun q _ => .of_lift _ (.ok (r.1 :: q.1, q.2))) fun q b _ hb fits => ?_
      cases hb
      exact fits
    · obtain ⟨⟨rest, g⟩, hg, hb⟩ := Checked.bind_eq_ok.mp hb
      cases hb
      exact fits.before (Nodewise.deliverAll hg) fun _ _ _ => Node.grows_takeAll

omit [Firmware φ] in
theorem forM_guardedFlush_follows (ns : List (Node φ)) :
    Follows (fun _ => ∀ n ∈ ns, n.flush.metrics.BytesFit)
      (ns.forM fun n => discard n.guardedFlush) (.ok ()) := by
  induction ns with
  | nil => exact .of_lift _ (.ok ())
  | cons n ns ih =>
    have first : Follows (fun _ => n.flush.metrics.BytesFit) (discard n.guardedFlush) (.ok ()) := by
      refine n.guardedFlush_follows.bind (f := fun _ => .ok ()) (fun _ _ => .of_lift _ (.ok ()))
        fun k _ hk _ fits => ?_
      cases hk
      exact fits
    refine first.bind (f := fun _ => .ok ()) (fun _ _ => ?_) fun _ _ _ _ fits => ?_
    · exact ih.mono fun _ _ fits n hn => fits n (List.mem_cons_of_mem _ hn)
    · exact fits n (List.mem_cons_self ..)

omit [Firmware φ] in
theorem guardedFlush_follows (f : Fleet φ) :
    Follows BytesFit f.guardedFlush (.ok (f.map .flush)) := by
  refine (forM_guardedFlush_follows f.toList).bind (f := fun _ => .ok (f.map .flush))
    (fun _ _ => .of_lift _ (.ok (f.map .flush))) fun _ g _ hg fits n hn => ?_
  cases hg
  obtain ⟨id, hn⟩ := mem_toList.mp hn
  refine fits id n.flush ?_
  rw [find?_map, hn, Option.map_some]

end Fleet

namespace Mesh

variable {mesh mesh' : Mesh φ} {now : Time} {report : UpdateReport}

structure SumsFit (mesh : Mesh φ) : Prop where
  bytes : mesh.fleet.BytesFit
  latencies : mesh.network.LatenciesFit

def guardedWork (fleet : Fleet φ) (arrived : List Message) (cuts : Cuts) (now : Time) :
    Guarded (List Bool × Fleet φ) := do
  let (reached, fleet) ← Fleet.guardedDeliverAll now arrived (fleet.observe now)
  let fleet ← lift (fleet.refreshAll now cuts)
  let fleet ← lift (fleet.tickAll now)
  return (reached, fleet)

def guardedUpdate (mesh : Mesh φ) (now : Time) : Guarded (UpdateReport × Mesh φ) := do
  let (arrived, network) := mesh.network.drain now
  let (reached, fleet) ← guardedWork mesh.fleet (arrived.map (·.2)) network.cuts now
  let unsent := fleet.unsent
  let (times, network) ← network.guardedEnqueueAll now unsent
  let fleet ← fleet.guardedFlush
  return (
    { delivered := reached.count true
      undeliverable := reached.count false
      sent := unsent.length
      admitted := times.countP Option.isSome },
    { fleet, network })

theorem guardedWork_follows (fleet : Fleet φ) (arrived : List Message) (cuts : Cuts) (now : Time) :
    Follows (·.2.BytesFit) (guardedWork fleet arrived cuts now) (work fleet arrived cuts now) := by
  refine (Fleet.guardedDeliverAll_follows now arrived (fleet.observe now)).bind (fun r _ => ?_)
    fun r b _ hb fits => ?_
  · refine Follows.bind_lift fun g _ => Follows.bind_lift fun k _ => ?_
    exact .of_lift _ (.ok (r.1, k))
  · obtain ⟨g, refreshed, hb⟩ := Checked.bind_eq_ok.mp hb
    obtain ⟨k, ticked, hb⟩ := Checked.bind_eq_ok.mp hb
    cases hb
    have shown : g.BytesFit :=
      fits.before (.each ticked) fun _ _ _ hm => .of_mail (Node.mail_call hm)
    exact shown.before (.refreshAll refreshed) fun _ _ _ ⟨_, hm⟩ =>
      .of_mail (Node.mail_refreshPeers hm)

theorem SumsFit.before_update (fits : mesh'.SumsFit) (hu : mesh.update now = .ok (report, mesh')) :
    mesh.SumsFit := by
  refine ⟨fits.bytes.before (update_nodewise hu) fun id n m ⟨peers, attended⟩ => ?_, ?_⟩
  · obtain ⟨a, taken, attended⟩ := Checked.bind_eq_ok.mp attended
    obtain ⟨b, refreshed, attended⟩ := Checked.bind_eq_ok.mp attended
    obtain ⟨c, ticked, attended⟩ := Checked.bind_eq_ok.mp attended
    cases attended
    have kept : c.metrics.mail = a.metrics.mail :=
      (Node.mail_call ticked).trans (Node.mail_refreshPeers refreshed)
    exact ((Node.grows_takeAll taken).trans (.of_mail kept)).trans c.grows_flush
  · obtain ⟨reached, fleet, -, -, rfl⟩ := update_eq_ok hu
    have drained : (mesh.network.drain now).2.LatenciesFit := fits.latencies.before_enqueueAll
    exact drained

theorem guardedUpdate_follows (h : mesh.network.conditions.AllTracked) (now : Time) :
    Follows (·.2.SumsFit) (mesh.guardedUpdate now) (mesh.update now) := by
  let network := (mesh.network.drain now).2
  have drained : network.conditions.AllTracked := h
  refine (guardedWork_follows mesh.fleet _ network.cuts now).bind (fun ⟨reached, fleet⟩ _ => ?_)
    fun r b _ hb fits => ?_
  · let answer (times : List (Option Time)) (fleet' : Fleet φ) (network : Network) :
        UpdateReport × Mesh φ :=
      ({ delivered := reached.count true
         undeliverable := reached.count false
         sent := fleet.unsent.length
         admitted := times.countP Option.isSome }, ⟨fleet', network⟩)
    refine (Network.guardedEnqueueAll_follows drained now fleet.unsent).bind
      (f := fun q => .ok (answer q.1 (fleet.map .flush) q.2)) (fun q _ => ?_) fun q b _ hb fits => ?_
    · refine fleet.guardedFlush_follows.bind (f := fun flushed => .ok (answer q.1 flushed q.2))
        (fun flushed _ => .of_lift _ (.ok (answer q.1 flushed q.2))) fun flushed b _ hb fits => ?_
      cases hb
      exact fits.bytes
    · cases hb
      exact fits.latencies
  · cases hb
    exact fits.bytes.before (.map r.2 .flush) fun _ n _ hm => hm ▸ n.grows_flush

theorem tracked_update (h : mesh.network.conditions.AllTracked)
    (hu : mesh.update now = .ok (report, mesh')) : mesh'.network.conditions.AllTracked := by
  obtain ⟨reached, fleet, -, -, rfl⟩ := update_eq_ok hu
  have drained : (mesh.network.drain now).2.conditions.AllTracked := h
  exact Network.tracked_enqueueAll drained now fleet.unsent

end Mesh

namespace Event

def guardNumbers : Event → Guarded Unit
  | partition groups =>
    if groups.Valid then discard (Guarded.bounded .groupNumber groups.length) else .ok ()
  | start _ | stop _ _ | crash _ | restart _ | drop _ | restore _ | degrade _ _ _ | heal => .ok ()

def NumbersFit : Event → Prop
  | partition groups => groups.Valid → groups.length < UInt32.size
  | start _ | stop _ _ | crash _ | restart _ | drop _ | restore _ | degrade _ _ _ | heal => True

theorem guardNumbers_follows (e : Event) :
    Follows (fun _ => e.NumbersFit) e.guardNumbers (.ok ()) := by
  cases e with
  | partition groups =>
    rw [guardNumbers]
    split
    · next valid =>
      exact Follows.bounded_bind (.of_lift _ (.ok ())) fun _ _ fits => fits valid
    · exact .of_lift _ (.ok ())
  | start id | stop id graceful | crash id | restart id | drop l | restore l
  | degrade l latency loss | heal => exact .of_lift _ (.ok ())

theorem mail_altered {e : Event} {now : Time} {id : NodeId} {n m : Node φ}
    (h : e.Alters now id n m) : m.metrics.mail = n.metrics.mail := by
  let R (k : Node φ) : Prop := k.metrics.mail = n.metrics.mail
  cases e with
  | start i => exact Node.of_altered (R := R) h Node.mail_wake rfl
  | stop i graceful => exact Node.of_altered (R := R) h Node.mail_stop rfl
  | crash i => exact Node.of_altered (R := R) h Node.mail_crash rfl
  | restart i => exact Node.of_altered (R := R) h Node.mail_reboot rfl
  | partition groups | heal =>
    obtain ⟨tag, rfl⟩ := h
    rfl
  | drop l | restore l | degrade l latency loss =>
    obtain rfl := h
    rfl

end Event

namespace Agenda

def guardedPerformAll (now : Time) :
    List (Waiting Event) → Mesh φ → Guarded (List (Option Failure) × Mesh φ)
  | [], mesh => .ok ([], mesh)
  | task :: tasks, mesh => do
    task.item.guardNumbers
    let (outcome, mesh) ← lift (perform now task mesh)
    let (outcomes, mesh) ← guardedPerformAll now tasks mesh
    return (outcome :: outcomes, mesh)

def guardedRun (a : Agenda Event) (now : Time) (mesh : Mesh φ) :
    Guarded (Nat × Agenda Event × Mesh φ) := do
  let (outcomes, mesh) ← guardedPerformAll now (a.pending.ready now) mesh
  return (outcomes.countP Option.isNone,
    { pending := a.pending.after now, failures := a.failures ++ outcomes.filterMap id }, mesh)

theorem guardedPerformAll_follows (now : Time) (tasks : List (Waiting Event)) (mesh : Mesh φ) :
    Follows (fun _ => ∀ w ∈ tasks, w.item.NumbersFit) (guardedPerformAll now tasks mesh)
      (performAll now tasks mesh) := by
  induction tasks generalizing mesh with
  | nil => exact .of_lift _ (.ok ([], mesh))
  | cons task tasks ih =>
    refine task.item.guardNumbers_follows.bind (f := fun _ => performAll now (task :: tasks) mesh)
      (fun _ _ => ?_) fun _ _ _ _ fits => fits task (List.mem_cons_self ..)
    refine Follows.bind_lift fun ⟨outcome, mesh⟩ _ => ?_
    refine (ih mesh).bind (fun r _ => .of_lift _ (.ok (outcome :: r.1, r.2))) fun _ _ _ _ fits => ?_
    exact fun w hw => fits w (List.mem_cons_of_mem _ hw)

theorem guardedRun_follows (a : Agenda Event) (now : Time) (mesh : Mesh φ) :
    Follows (fun _ => ∀ w ∈ a.pending.ready now, w.item.NumbersFit) (a.guardedRun now mesh)
      (a.run now mesh) :=
  (guardedPerformAll_follows now _ mesh).bind (fun _ _ => .of_lift _ (.ok _))
    fun _ _ _ _ fits => fits

end Agenda

theorem Event.tracked_effect {e : Event} {now : Time} {mesh mesh' : Mesh φ}
    (h : mesh.network.conditions.AllTracked) (he : e.effect now mesh = .ok mesh') :
    mesh'.network.conditions.AllTracked := by
  cases e with
  | start id | stop id graceful | crash id | restart id =>
    obtain ⟨fleet, -, rfl⟩ := Checked.map_eq_ok.mp he
    exact h
  | drop l | restore l | partition groups | heal =>
    cases he
    exact h
  | degrade l latency loss =>
    rw [effect] at he
    split at he
    · cases he
      exact h.degraded l latency _
    · cases he
      exact h

theorem Worklist.tracked_perform {now : Time} {tasks : List (Waiting Event)} {mesh mesh' : Mesh φ}
    {verdicts : List (Waiting Event × Except String Unit)}
    (h : mesh.network.conditions.AllTracked)
    (hp : perform now tasks mesh = .ok (verdicts, mesh')) :
    mesh'.network.conditions.AllTracked := by
  induction tasks generalizing mesh verdicts with
  | nil =>
    cases hp
    exact h
  | cons task tasks ih =>
    rw [perform, Event.executable_perform_eq] at hp
    obtain ⟨⟨verdict, d⟩, hd, hp⟩ := Checked.bind_eq_ok.mp hp
    obtain ⟨⟨rest, d'⟩, hr, hp⟩ := Checked.bind_eq_ok.mp hp
    obtain ⟨⟨verdict', d''⟩, he, hv⟩ := Checked.map_eq_ok.mp hd
    cases hp
    cases hv
    refine ih ?_ hr
    rcases Event.eq_or_effect_of_perform he with rfl | he
    · exact h
    · exact Event.tracked_effect h he

theorem Worklist.sumsFit_before {now : Time} {tasks : List (Waiting Event)} {mesh mesh' : Mesh φ}
    {verdicts : List (Waiting Event × Except String Unit)} (fits : mesh'.SumsFit)
    (hp : perform now tasks mesh = .ok (verdicts, mesh')) : mesh.SumsFit := by
  induction tasks generalizing mesh verdicts with
  | nil =>
    cases hp
    exact fits
  | cons task tasks ih =>
    rw [perform, Event.executable_perform_eq] at hp
    obtain ⟨⟨verdict, d⟩, hd, hp⟩ := Checked.bind_eq_ok.mp hp
    obtain ⟨⟨rest, d'⟩, hr, hp⟩ := Checked.bind_eq_ok.mp hp
    obtain ⟨⟨verdict', d''⟩, he, hv⟩ := Checked.map_eq_ok.mp hd
    cases hp
    cases hv
    have after : d''.SumsFit := ih hr
    rcases Event.eq_or_effect_of_perform he with rfl | effect
    · exact after
    · refine ⟨after.bytes.before (Event.effect_nodewise effect) fun _ _ _ altered => ?_, fun l => ?_⟩
      · exact .of_mail (Event.mail_altered altered)
      · have counted := after.latencies l
        rwa [(Event.effect_frame effect).2] at counted

namespace Simulation

variable {s s' : Simulation φ} {now : Time}

/-- Bursts never run below zero in such a simulation, since none of them is empty. -/
def Tracked (s : Simulation φ) : Prop := s.mesh.network.conditions.AllTracked

omit [Firmware φ] in
def NumbersFit (s : Simulation φ) : Prop := ∀ w ∈ s.agenda.pending.queue, w.item.NumbersFit

def guardedAdvance (s : Simulation φ) (now : Time) : Guarded (StepReport × Simulation φ) := do
  let now := max s.clock now
  let (executed, agenda, mesh) ← s.agenda.guardedRun now s.mesh
  let (update, mesh) ← mesh.guardedUpdate now
  let failed ← Guarded.difference agenda.failures.length s.agenda.failures.length
  return ({ now, executed, failed, update }, { clock := now, mesh, agenda })

def guardedAdvanceAll : List Time → Simulation φ → Guarded (List StepReport × Simulation φ)
  | [], s => .ok ([], s)
  | time :: times, s => do
    let (report, s) ← s.guardedAdvance time
    let (reports, s) ← guardedAdvanceAll times s
    return (report :: reports, s)

theorem Tracked.advance {report : StepReport} (h : s.Tracked)
    (ha : s.advance now = .ok (report, s')) : s'.Tracked := by
  obtain ⟨verdicts, mesh, update, performed, updated, -⟩ := advance_eq_ok ha
  exact Mesh.tracked_update (Worklist.tracked_perform h performed) updated

theorem NumbersFit.advance {report : StepReport} (h : s.NumbersFit)
    (ha : s.advance now = .ok (report, s')) : s'.NumbersFit := by
  obtain ⟨-, -, -, -, -, -, -, pending, -⟩ := advance_eq_ok ha
  intro w hw
  rw [pending] at hw
  exact h w ((List.dropWhile_sublist _).subset hw)

theorem sumsFit_before_advance {report : StepReport} (fits : s'.mesh.SumsFit)
    (ha : s.advance now = .ok (report, s')) : s.mesh.SumsFit := by
  obtain ⟨verdicts, mesh, update, performed, updated, -⟩ := advance_eq_ok ha
  exact Worklist.sumsFit_before (fits.before_update updated) performed

theorem guardedAdvance_follows (h : s.Tracked) (now : Time) :
    Follows (fun r => s.NumbersFit ∧ r.2.mesh.SumsFit) (s.guardedAdvance now) (s.advance now) := by
  refine (Agenda.guardedRun_follows s.agenda (max s.clock now) s.mesh).bind
    (fun ⟨executed, agenda, mesh⟩ events => ?_) fun _ _ _ _ fits w hw => ?_
  · obtain ⟨verdicts, performed, -, -, failures⟩ := Agenda.run_eq_ok events
    -- Within a step failures are only noted, never taken.
    have grown : s.agenda.failures.length ≤ agenda.failures.length := by
      rw [failures, List.length_append]
      exact Nat.le_add_right _ _
    refine (Mesh.guardedUpdate_follows (Worklist.tracked_perform h performed) _).bind
      (fun ⟨update, mesh'⟩ _ => ?_) fun r b _ hb fits => ?_
    · rw [Guarded.difference_of_le grown]
      exact .of_lift _ (.ok _)
    · cases hb
      exact fits.2
  · exact fits.1 w ((List.takeWhile_sublist _).subset hw)

theorem sumsFit_before_advanceAll {times : List Time} {reports : List StepReport}
    (fits : s'.mesh.SumsFit) (ha : s.advanceAll times = .ok (reports, s')) : s.mesh.SumsFit :=
  advanceAll_induction (P := fun a => a.mesh.SumsFit → s.mesh.SumsFit)
    (fun _ _ _ _ before step fits => before (sumsFit_before_advance fits step)) id ha fits

theorem guardedAdvanceAll_follows (h : s.Tracked) (times : List Time) :
    Follows (fun r => s.NumbersFit ∧ r.2.mesh.SumsFit) (s.guardedAdvanceAll times)
      (s.advanceAll times) := by
  induction times generalizing s with
  | nil => exact .of_lift _ (.ok ([], s))
  | cons time times ih =>
    refine (guardedAdvance_follows h time).bind (fun ⟨report, next⟩ ha => ?_) fun r b ha hb fits => ?_
    · refine (ih (h.advance ha)).bind (fun q _ => .of_lift _ (.ok (report :: q.1, q.2)))
        fun q b _ hb fits => ?_
      cases hb
      exact ⟨fits.1.advance ha, fits.2⟩
    · obtain ⟨⟨rest, last⟩, others, hb⟩ := Checked.bind_eq_ok.mp hb
      cases hb
      exact ⟨fits.1, sumsFit_before_advanceAll fits.2 others⟩

theorem NumbersFit.advanceAll {times : List Time} {reports : List StepReport} (h : s.NumbersFit)
    (ha : s.advanceAll times = .ok (reports, s')) : s'.NumbersFit :=
  advanceAll_induction (fun _ _ _ _ h step => advance h step) h ha

end Simulation

end MeshNet
