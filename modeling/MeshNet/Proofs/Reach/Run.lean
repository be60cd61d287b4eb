import MeshNet.Proofs.Event.Atomic
import MeshNet.Proofs.Network.Delivery
import MeshNet.Proofs.Reach.Peers
import MeshNet.Proofs.Reach.Verdict
import MeshNet.Simulation

namespace MeshNet

inductive MeshOp (φ : Type) where
  | execute (e : Event) (now : Time)
  | update (now : Time)
  | network (op : NetworkOp)
  | fleet (op : FleetOp φ)

def NetworkOp.rewires : NetworkOp → Bool
  | cut _ | mend _ | mendAll => true
  | enqueue _ _ | drain _ | clear | drops _ | configure _ | resetTraffic => false

def MeshOp.rewires {φ : Type} : MeshOp φ → Bool
  | network op => op.rewires
  | execute _ _ | update _ | fleet _ => false

theorem Network.cuts_step {n : Network} {op : NetworkOp} (h : op.rewires = false) :
    (n.step op).2.cuts = n.cuts := by
  cases op with
  | enqueue m now => exact n.cuts_enqueue m now
  | drops l => exact n.cuts_drops l
  | configure s => exact n.cuts_configure s
  | drain now | clear | resetTraffic => rfl
  | cut l | mend l | mendAll => cases h

namespace Event

variable {φ : Type}

theorem valid_of_refusal? {f : Fleet φ} {e : Event} (h : e.refusal? f = none) :
    ∀ g, e = .partition g → g.Valid := by
  rintro g rfl
  rw [refusal?] at h
  split at h
  · next hc => exact (Groups.check_eq_ok_iff.1 hc).2
  · cases h

variable [Firmware φ]

theorem cuts_effect {e : Event} {now : Time} {mesh mesh' : Mesh φ}
    (h : e.effect now mesh = .ok mesh') : mesh'.network.cuts = e.rewire mesh.network.cuts := by
  cases e with
  | start id | stop id graceful | crash id | restart id =>
    obtain ⟨fleet, -, rfl⟩ := Checked.map_eq_ok.1 h
    rfl
  | drop l | restore l | partition groups | heal =>
    cases h
    rfl
  | degrade l latency loss =>
    rw [effect] at h
    split at h
    · cases h
      rfl
    · cases h
      rfl

end Event

namespace Mesh

variable {φ : Type}

structure Traced (mesh : Mesh φ) (events : List Event) : Prop where
  cuts : Event.Explains events mesh.network.cuts
  keyed : mesh.fleet.Keyed

variable [Firmware φ]

def step (mesh : Mesh φ) : MeshOp φ → Checked (List Event × Mesh φ)
  | .execute e now => do
    let (verdict, mesh) ← ((e.perform now).run.run mesh : Checked _)
    return (if verdict.isOk then [e] else [], mesh)
  | .update now => do
    let (_, mesh) ← mesh.update now
    return ([], mesh)
  | .network op => .ok ([], { mesh with network := (mesh.network.step op).2 })
  | .fleet op => do
    let fleet ← mesh.fleet.step op
    return ([], { mesh with fleet })

def steps : List (MeshOp φ) → Mesh φ → Checked (List Event × Mesh φ)
  | [], mesh => .ok ([], mesh)
  | op :: ops, mesh => do
    let (events, mesh) ← mesh.step op
    let (more, mesh) ← steps ops mesh
    return (events ++ more, mesh)

theorem steps_cons_eq_ok {mesh mesh' : Mesh φ} {op : MeshOp φ} {ops : List (MeshOp φ)}
    {events : List Event} :
    steps (op :: ops) mesh = .ok (events, mesh') ↔
      ∃ first next rest, mesh.step op = .ok (first, next) ∧ steps ops next = .ok (rest, mesh') ∧
        first ++ rest = events := by
  constructor
  · intro h
    obtain ⟨⟨first, next⟩, ho, h⟩ := Checked.bind_eq_ok.1 h
    obtain ⟨⟨rest, last⟩, hr, h⟩ := Checked.bind_eq_ok.1 h
    cases h
    exact ⟨first, next, rest, ho, hr, rfl⟩
  · rintro ⟨first, next, rest, ho, hr, rfl⟩
    exact Checked.bind_eq_ok.2 ⟨(first, next), ho, Checked.bind_eq_ok.2 ⟨(rest, mesh'), hr, rfl⟩⟩

theorem steps_keep {P : Mesh φ → Prop} {ops : List (MeshOp φ)} {mesh mesh' : Mesh φ}
    {events : List Event}
    (keeps : ∀ op ∈ ops, ∀ (mesh next : Mesh φ) (first : List Event), P mesh →
      mesh.step op = .ok (first, next) → P next)
    (start : P mesh) (h : steps ops mesh = .ok (events, mesh')) : P mesh' := by
  induction ops generalizing mesh events with
  | nil =>
    cases h
    exact start
  | cons op ops ih =>
    obtain ⟨first, next, rest, ho, hr, -⟩ := steps_cons_eq_ok.1 h
    rw [List.forall_mem_cons] at keeps
    exact ih keeps.2 (keeps.1 mesh next first start ho) hr

theorem step_execute {mesh : Mesh φ} {e : Event} {now : Time} {r : List Event × Mesh φ}
    (h : mesh.step (.execute e now) = .ok r) :
    r = ([], mesh) ∨
      (r.1 = [e] ∧ e.refusal? mesh.fleet = none ∧ e.effect now mesh = .ok r.2) := by
  obtain ⟨⟨verdict, mesh'⟩, hp, h⟩ := Checked.bind_eq_ok.1 h
  rw [Event.perform_eq] at hp
  cases hr : e.refusal? mesh.fleet with
  | some error =>
    rw [hr] at hp
    cases hp
    cases h
    exact .inl rfl
  | none =>
    rw [hr] at hp
    obtain ⟨mesh'', he, hp⟩ := Checked.map_eq_ok.1 hp
    cases hp
    cases h
    exact .inr ⟨rfl, rfl, he⟩

theorem keyed_step {mesh mesh' : Mesh φ} {op : MeshOp φ} {events : List Event}
    (keyed : mesh.fleet.Keyed) (h : mesh.step op = .ok (events, mesh')) : mesh'.fleet.Keyed := by
  cases op with
  | execute e now =>
    rcases step_execute h with hr | ⟨-, -, he⟩
    · cases hr
      exact keyed
    · exact keyed.effect he
  | update now =>
    obtain ⟨⟨report, mesh''⟩, hu, h⟩ := Checked.bind_eq_ok.1 h
    cases h
    exact (update_peers hu keyed).1
  | network op =>
    cases h
    exact keyed
  | fleet op =>
    obtain ⟨fleet, hf, h⟩ := Checked.bind_eq_ok.1 h
    cases h
    exact keyed.step hf

theorem keyed_steps {mesh mesh' : Mesh φ} {ops : List (MeshOp φ)} {events : List Event}
    (keyed : mesh.fleet.Keyed) (h : steps ops mesh = .ok (events, mesh')) :
    mesh'.fleet.Keyed :=
  steps_keep (P := fun mesh => mesh.fleet.Keyed) (fun _ _ _ _ _ => keyed_step) keyed h

theorem Traced.step {mesh mesh' : Mesh φ} {events more : List Event} (h : mesh.Traced events)
    {op : MeshOp φ} (byEvents : op.rewires = false) (hs : mesh.step op = .ok (more, mesh')) :
    mesh'.Traced (events ++ more) := by
  refine ⟨?_, keyed_step h.keyed hs⟩
  cases op with
  | execute e now =>
    rcases step_execute hs with hr | ⟨rfl, hr, he⟩
    · cases hr
      rw [List.append_nil]
      exact h.cuts
    · rw [Event.cuts_effect he]
      exact h.cuts.concat (Event.valid_of_refusal? hr)
  | update now =>
    obtain ⟨⟨report, mesh''⟩, hu, hs⟩ := Checked.bind_eq_ok.1 hs
    cases hs
    obtain ⟨-, cuts, -⟩ := update_peers hu h.keyed
    rw [List.append_nil, cuts]
    exact h.cuts
  | network op =>
    cases hs
    rw [List.append_nil, Network.cuts_step byEvents]
    exact h.cuts
  | fleet op =>
    obtain ⟨fleet, hf, hs⟩ := Checked.bind_eq_ok.1 hs
    cases hs
    rw [List.append_nil]
    exact h.cuts

theorem Traced.steps {mesh mesh' : Mesh φ} {events more : List Event} (h : mesh.Traced events)
    {ops : List (MeshOp φ)} (byEvents : ∀ op ∈ ops, op.rewires = false)
    (hs : steps ops mesh = .ok (more, mesh')) : mesh'.Traced (events ++ more) := by
  induction ops generalizing mesh events more with
  | nil =>
    cases hs
    rwa [List.append_nil]
  | cons op ops ih =>
    obtain ⟨first, next, rest, ho, hr, rfl⟩ := steps_cons_eq_ok.1 hs
    rw [List.forall_mem_cons] at byEvents
    rw [← List.append_assoc]
    exact ih (h.step byEvents.1 ho) byEvents.2 hr

theorem steps_append {mesh mesh' : Mesh φ} {ops more : List (MeshOp φ)} {events : List Event}
    (h : steps ops mesh = .ok (events, mesh')) :
    steps (ops ++ more) mesh = (fun r => (events ++ r.1, r.2)) <$> steps more mesh' := by
  induction ops generalizing mesh events with
  | nil =>
    cases h
    rw [List.nil_append]
    cases steps more mesh' <;> rfl
  | cons op ops ih =>
    obtain ⟨first, next, rest, ho, hr, rfl⟩ := steps_cons_eq_ok.1 h
    rw [List.cons_append, steps, ho, Checked.ok_bind]
    simp only [ih hr]
    cases steps more mesh' with
    | error fault => rfl
    | ok r => simp

theorem steps_of_perform {tasks : List (Waiting Event)} {now : Time} {mesh mesh' : Mesh φ}
    {verdicts : List (Waiting Event × Except String Unit)}
    (h : Worklist.perform now tasks mesh = .ok (verdicts, mesh')) :
    steps (tasks.map fun task => .execute task.item now) mesh =
      .ok ((Worklist.succeeded verdicts).map (·.item), mesh') := by
  induction tasks generalizing mesh verdicts with
  | nil =>
    cases h
    rfl
  | cons task tasks ih =>
    rw [Worklist.perform, Event.executable_perform_eq] at h
    obtain ⟨⟨verdict, d⟩, hp, h⟩ := Checked.bind_eq_ok.1 h
    obtain ⟨⟨verdicts', d'⟩, hr, h⟩ := Checked.bind_eq_ok.1 h
    cases h
    obtain ⟨⟨outcome, d⟩, ho, he⟩ := Checked.map_eq_ok.1 hp
    cases he
    have hs : mesh.step (.execute task.item now) =
        .ok (if outcome.isOk then [task.item] else [], d) := by
      rw [step, ho]
      rfl
    rw [List.map_cons, steps, hs, Checked.ok_bind]
    simp only [ih hr]
    cases outcome <;> rfl

end Mesh

namespace Simulation

variable {φ : Type}

def due (s : Simulation φ) (now : Time) : List (MeshOp φ) :=
  (s.agenda.pending.ready (max s.clock now)).map (fun task => .execute task.item (max s.clock now)) ++
    [.update (max s.clock now)]

theorem rewires_due {s : Simulation φ} {now : Time} : ∀ op ∈ s.due now, op.rewires = false := by
  intro op hop
  rw [due, List.mem_append, List.mem_map, List.mem_singleton] at hop
  rcases hop with ⟨task, -, rfl⟩ | rfl
  · rfl
  · rfl

theorem advance_eq_ok [Firmware φ] {s s' : Simulation φ} {now : Time} {report : StepReport}
    (h : s.advance now = .ok (report, s')) :
    ∃ verdicts mesh update,
      Worklist.perform (max s.clock now) (s.agenda.pending.ready (max s.clock now)) s.mesh =
        .ok (verdicts, mesh) ∧
      mesh.update (max s.clock now) = .ok (update, s'.mesh) ∧
      report = {
        now := max s.clock now
        executed := (Worklist.succeeded verdicts).length
        failed := (Worklist.refused verdicts).length
        update } ∧
      s'.clock = max s.clock now ∧
      s'.agenda.pending = s.agenda.pending.after (max s.clock now) ∧
      s'.agenda.failures =
        s.agenda.failures ++ (Worklist.refused verdicts).map (Worklist.report (max s.clock now)) := by
  obtain ⟨⟨executed, agenda, mesh⟩, events, h⟩ := Checked.bind_eq_ok.1 h
  obtain ⟨⟨update, mesh'⟩, updated, h⟩ := Checked.bind_eq_ok.1 h
  obtain ⟨verdicts, performed, rfl, pending, failures⟩ := Agenda.run_eq_ok events
  cases h
  refine ⟨verdicts, mesh, update, performed, updated, ?_, rfl, pending, failures⟩
  have failed : agenda.failures.length - s.agenda.failures.length =
      (Worklist.refused verdicts).length := by
    rw [failures, List.length_append, List.length_map, Nat.add_sub_cancel_left]
  rw [failed]

theorem steps_due [Firmware φ] {s s' : Simulation φ} {now : Time} {report : StepReport}
    (h : s.advance now = .ok (report, s')) :
    ∃ events, events.length = report.executed ∧
      Mesh.steps (s.due now) s.mesh = .ok (events, s'.mesh) := by
  obtain ⟨verdicts, mesh, update, performed, updated, rfl, -⟩ := advance_eq_ok h
  refine ⟨(Worklist.succeeded verdicts).map (·.item), List.length_map _, ?_⟩
  rw [due, Mesh.steps_append (Mesh.steps_of_perform performed), Mesh.steps, Mesh.step, updated]
  simp [Mesh.steps]

theorem steps_of_advance [Firmware φ] {s s' : Simulation φ} {now : Time} {report : StepReport}
    (h : s.advance now = .ok (report, s')) :
    ∃ ops events, (∀ op ∈ ops, op.rewires = false) ∧ events.length = report.executed ∧
      Mesh.steps ops s.mesh = .ok (events, s'.mesh) := by
  obtain ⟨events, executed, hs⟩ := steps_due h
  exact ⟨s.due now, events, rewires_due, executed, hs⟩

end Simulation

end MeshNet
