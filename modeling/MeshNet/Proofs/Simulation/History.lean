import MeshNet.Proofs.Conservation.Exchange
import MeshNet.Proofs.Reach.Run

namespace MeshNet

inductive SimulationOp (φ : Type) where
  | schedule (e : Event) (time : Time)
  | clearAgenda
  | takeFailures
  | advance (now : Time)
  | runUntil (last : Time) (stride : UInt64)
  | mesh (op : MeshOp φ)

structure Stage (φ : Type) where
  op : MeshOp φ
  before : Mesh φ
  after : Mesh φ

variable {φ : Type} [Firmware φ]

namespace Stage

def admitted (s : Stage φ) : List (Waiting Message) :=
  match s.op with
  | .update now =>
    match s.before.exchange now with
    | .ok x => Waiting.enumerate s.before.network.inFlight.arrivals x.taken
    | .error _ => []
  | .network (.enqueue m now) =>
    ((s.before.network.enqueue m now).1.map
      (⟨·, s.before.network.inFlight.arrivals, m⟩)).toList
  | _ => []

def handled (s : Stage φ) : List (Waiting Message) :=
  match s.op with
  | .update now => s.before.network.inFlight.ready now
  | _ => []

def Reaches (s : Stage φ) (time : Time) : Prop := ∃ now, s.op = .update now ∧ time ≤ now

def Link : Mesh φ → List (Stage φ) → Mesh φ → Prop
  | first, [], last => first = last
  | first, s :: stages, last =>
    s.before = first ∧ (∃ events, first.step s.op = .ok (events, s.after)) ∧ Link s.after stages last

theorem Link.append {a b c : Mesh φ} {stages more : List (Stage φ)} (h : Link a stages b)
    (h' : Link b more c) : Link a (stages ++ more) c := by
  induction stages generalizing a with
  | nil =>
    cases h
    exact h'
  | cons s stages ih =>
    obtain ⟨first, step, rest⟩ := h
    exact ⟨first, step, ih rest⟩

theorem Link.step {a b : Mesh φ} {stages : List (Stage φ)} (h : Link a stages b) {s : Stage φ}
    (hs : s ∈ stages) : ∃ events, s.before.step s.op = .ok (events, s.after) := by
  induction stages generalizing a with
  | nil => cases hs
  | cons first stages ih =>
    obtain ⟨rfl, step, rest⟩ := h
    rcases List.mem_cons.1 hs with rfl | hs
    · exact step
    · exact ih rest hs

theorem Link.split {a b : Mesh φ} {past rest : List (Stage φ)} (h : Link a (past ++ rest) b) :
    ∃ mesh, Link a past mesh ∧ Link mesh rest b := by
  induction past generalizing a with
  | nil => exact ⟨a, rfl, h⟩
  | cons s past ih =>
    obtain ⟨first, step, h⟩ := h
    obtain ⟨mesh, before, after⟩ := ih h
    exact ⟨mesh, ⟨first, step, before⟩, after⟩

end Stage

def Mesh.stages : List (MeshOp φ) → Mesh φ → Checked (List (Stage φ) × Mesh φ)
  | [], mesh => .ok ([], mesh)
  | op :: ops, mesh => do
    let (_, next) ← mesh.step op
    let (rest, last) ← stages ops next
    return (⟨op, mesh, next⟩ :: rest, last)

theorem Mesh.link_stages {ops : List (MeshOp φ)} {mesh last : Mesh φ} {history : List (Stage φ)}
    (h : stages ops mesh = .ok (history, last)) :
    Stage.Link mesh history last := by
  induction ops generalizing mesh history with
  | nil =>
    cases h
    rfl
  | cons op ops ih =>
    obtain ⟨⟨events, next⟩, hs, h⟩ := Checked.bind_eq_ok.1 h
    obtain ⟨⟨rest, last'⟩, hr, h⟩ := Checked.bind_eq_ok.1 h
    cases h
    exact ⟨rfl, ⟨events, hs⟩, ih hr⟩

theorem Mesh.ops_stages {ops : List (MeshOp φ)} {mesh last : Mesh φ} {history : List (Stage φ)}
    (h : stages ops mesh = .ok (history, last)) : history.map (·.op) = ops := by
  induction ops generalizing mesh history with
  | nil =>
    cases h
    rfl
  | cons op ops ih =>
    obtain ⟨⟨events, next⟩, -, h⟩ := Checked.bind_eq_ok.1 h
    obtain ⟨⟨rest, last'⟩, hr, h⟩ := Checked.bind_eq_ok.1 h
    cases h
    rw [List.map_cons, ih hr]

theorem Mesh.stages_of_steps {ops : List (MeshOp φ)} {mesh last : Mesh φ} {events : List Event}
    (h : steps ops mesh = .ok (events, last)) : ∃ history, stages ops mesh = .ok (history, last) := by
  induction ops generalizing mesh events with
  | nil =>
    cases h
    exact ⟨[], rfl⟩
  | cons op ops ih =>
    obtain ⟨first, next, more, hs, hr, -⟩ := steps_cons_eq_ok.1 h
    obtain ⟨rest, hrest⟩ := ih hr
    refine ⟨⟨op, mesh, next⟩ :: rest, ?_⟩
    rw [stages, hs, Checked.ok_bind]
    simp only [hrest]
    rfl

namespace Simulation

def operate (s : Simulation φ) : SimulationOp φ → Checked (Simulation φ)
  | .schedule e time => .ok (s.schedule e time)
  | .clearAgenda => .ok { s with agenda := s.agenda.clear }
  | .takeFailures => .ok { s with agenda := s.agenda.takeFailures.2 }
  | .advance now => (·.2) <$> s.advance now
  | .runUntil last stride => (·.2) <$> s.runUntil last stride
  | .mesh op => (fun r => { s with mesh := r.2 }) <$> s.mesh.step op

def operateAll : List (SimulationOp φ) → Simulation φ → Checked (Simulation φ)
  | [], s => .ok s
  | op :: ops, s => do operateAll ops (← s.operate op)

def stagesAll : List Time → Simulation φ → Checked (List (Stage φ))
  | [], _ => .ok []
  | time :: times, s => do
    let (stages, _) ← s.mesh.stages (s.due time)
    let (_, s) ← s.advance time
    let more ← stagesAll times s
    return stages ++ more

def stages (s : Simulation φ) : SimulationOp φ → Checked (List (Stage φ))
  | .schedule _ _ | .clearAgenda | .takeFailures => .ok []
  | .advance now => s.stagesAll [now]
  | .runUntil last stride => s.stagesAll (stepTimes stride last s.clock)
  | .mesh op => (·.1) <$> s.mesh.stages [op]

def history : List (SimulationOp φ) → Simulation φ → Checked (List (Stage φ))
  | [], _ => .ok []
  | op :: ops, s => do
    let stages ← s.stages op
    let s ← s.operate op
    let more ← history ops s
    return stages ++ more

theorem exists_stagesAll {times : List Time} {s s' : Simulation φ} {reports : List StepReport}
    (h : s.advanceAll times = .ok (reports, s')) :
    ∃ stages, s.stagesAll times = .ok stages ∧ Stage.Link s.mesh stages s'.mesh := by
  induction times generalizing s reports with
  | nil =>
    cases h
    exact ⟨[], rfl, rfl⟩
  | cons time times ih =>
    obtain ⟨⟨report, next⟩, ha, h⟩ := Checked.bind_eq_ok.1 h
    obtain ⟨⟨rest, last⟩, hr, h⟩ := Checked.bind_eq_ok.1 h
    cases h
    obtain ⟨events, -, hs⟩ := steps_due ha
    obtain ⟨stages, hst⟩ := Mesh.stages_of_steps hs
    obtain ⟨more, hm, linked⟩ := ih hr
    refine ⟨stages ++ more, ?_, (Mesh.link_stages hst).append linked⟩
    rw [stagesAll, hst, Checked.ok_bind]
    simp only [ha, Checked.ok_bind, hm]
    rfl

theorem exists_stages {op : SimulationOp φ} {s s' : Simulation φ} (h : s.operate op = .ok s') :
    ∃ stages, s.stages op = .ok stages ∧ Stage.Link s.mesh stages s'.mesh := by
  cases op with
  | schedule e time | clearAgenda | takeFailures =>
    cases h
    exact ⟨[], rfl, rfl⟩
  | advance now =>
    obtain ⟨⟨report, next⟩, ha, rfl⟩ := Checked.map_eq_ok.1 h
    have alone : s.advanceAll [now] = .ok ([report], next) := by
      rw [advanceAll, ha]
      rfl
    exact exists_stagesAll alone
  | runUntil last stride =>
    obtain ⟨⟨reports, next⟩, hr, rfl⟩ := Checked.map_eq_ok.1 h
    exact exists_stagesAll hr
  | mesh op =>
    obtain ⟨⟨events, next⟩, hs, rfl⟩ := Checked.map_eq_ok.1 h
    refine ⟨[⟨op, s.mesh, next⟩], ?_, rfl, ⟨events, hs⟩, rfl⟩
    rw [stages, Mesh.stages, hs]
    rfl

theorem exists_history {ops : List (SimulationOp φ)} {s s' : Simulation φ}
    (h : s.operateAll ops = .ok s') :
    ∃ stages, s.history ops = .ok stages ∧ Stage.Link s.mesh stages s'.mesh := by
  induction ops generalizing s with
  | nil =>
    cases h
    exact ⟨[], rfl, rfl⟩
  | cons op ops ih =>
    obtain ⟨next, ho, h⟩ := Checked.bind_eq_ok.1 h
    obtain ⟨stages, hst, linked⟩ := exists_stages ho
    obtain ⟨more, hm, linked'⟩ := ih h
    refine ⟨stages ++ more, ?_, linked.append linked'⟩
    rw [history, hst, Checked.ok_bind, ho, Checked.ok_bind, hm]
    rfl

section Operations

variable {P : MeshOp φ → Prop}

theorem forall_stages {ops : List (MeshOp φ)} {mesh last : Mesh φ} {stages : List (Stage φ)}
    (h : mesh.stages ops = .ok (stages, last)) (all : ∀ op ∈ ops, P op) : ∀ t ∈ stages, P t.op := by
  rw [← Mesh.ops_stages h] at all
  exact fun t ht => all t.op (List.mem_map_of_mem ht)

variable (execute : ∀ e now, P (.execute e now)) (update : ∀ now, P (.update now))
include execute update

theorem forall_stagesAll {times : List Time} {s : Simulation φ} {stages : List (Stage φ)}
    (h : s.stagesAll times = .ok stages) : ∀ t ∈ stages, P t.op := by
  induction times generalizing s stages with
  | nil =>
    cases h
    exact List.forall_mem_nil _
  | cons time times ih =>
    obtain ⟨⟨first, last⟩, hf, h⟩ := Checked.bind_eq_ok.1 h
    obtain ⟨⟨report, next⟩, -, h⟩ := Checked.bind_eq_ok.1 h
    obtain ⟨rest, hr, h⟩ := Checked.bind_eq_ok.1 h
    cases h
    have due : ∀ op ∈ s.due time, P op := by
      intro op hop
      rw [Simulation.due, List.mem_append, List.mem_map, List.mem_singleton] at hop
      rcases hop with ⟨task, -, rfl⟩ | rfl
      · exact execute task.item _
      · exact update _
    exact fun t ht => (List.mem_append.1 ht).elim (forall_stages hf due t) (ih hr t)

theorem forall_history {ops : List (SimulationOp φ)} {s : Simulation φ} {stages : List (Stage φ)}
    (h : s.history ops = .ok stages) (told : ∀ op, .mesh op ∈ ops → P op) :
    ∀ t ∈ stages, P t.op := by
  induction ops generalizing s stages with
  | nil =>
    cases h
    exact List.forall_mem_nil _
  | cons op ops ih =>
    obtain ⟨first, hf, h⟩ := Checked.bind_eq_ok.1 h
    obtain ⟨next, -, h⟩ := Checked.bind_eq_ok.1 h
    obtain ⟨rest, hr, h⟩ := Checked.bind_eq_ok.1 h
    cases h
    have here : ∀ t ∈ first, P t.op := by
      cases op with
      | schedule e time | clearAgenda | takeFailures =>
        cases hf
        exact List.forall_mem_nil _
      | advance now => exact forall_stagesAll execute update hf
      | runUntil last stride => exact forall_stagesAll execute update hf
      | mesh op =>
        obtain ⟨⟨stages, last⟩, hs, rfl⟩ := Checked.map_eq_ok.1 hf
        refine forall_stages hs fun o ho => ?_
        rw [List.mem_singleton.1 ho]
        exact told op (List.mem_cons_self ..)
    have later := ih hr fun o ho => told o (List.mem_cons_of_mem _ ho)
    exact fun t ht => (List.mem_append.1 ht).elim (here t) (later t)

end Operations

end Simulation

end MeshNet
