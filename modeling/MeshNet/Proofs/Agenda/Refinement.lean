import Mathlib.Algebra.Order.Group.Multiset
import Mathlib.Tactic.Abel
import MeshNet.Event.Effect
import MeshNet.Proofs.Agenda.Worklist

namespace MeshNet.Worklist

variable {ε κ : Type}

def all (w : Worklist ε) : List (Waiting ε) := w.executed ++ w.failed ++ w.cleared ++ w.roll.waiting

structure Mirrors (a : Agenda ε) (w : Worklist ε) : Prop where
  roll : a.pending.roll = w.roll
  failures : a.failures = w.failures

inductive Agree {ρ : Type} :
    Checked (ρ × Agenda ε × κ) → Checked (ρ × Worklist ε × κ) → Prop
  | ok {reply : ρ} {a : Agenda ε} {w : Worklist ε} {context : κ} (h : Mirrors a w) :
    Agree (.ok (reply, a, context)) (.ok (reply, w, context))
  | fault (fault : Fault) : Agree (.error fault) (.error fault)

variable [ToString ε] [Executable ε κ]

theorem step_agree {a : Agenda ε} {w : Worklist ε} (h : Mirrors a w) (op : AgendaOp ε)
    (context : κ) : Agree (a.step context op) (w.step context op) := by
  cases op with
  | schedule task time =>
    refine .ok ⟨?_, h.failures⟩
    rw [Agenda.schedule, Timeline.roll_insert, h.roll]
  | run now =>
    rw [Agenda.step, step, Agenda.run, Timeline.ready_eq_due, h.roll, performAll_eq]
    cases hp : perform now (w.roll.due now) context with
    | error fault => exact .fault fault
    | ok r =>
      obtain ⟨verdicts, context⟩ := r
      simp only [Checked.map_ok, Checked.ok_bind, Checked.pure_def, countP_outcome,
        filterMap_outcome]
      refine .ok ⟨?_, ?_⟩
      · rw [Timeline.roll_after, h.roll]
      · rw [h.failures]
  | clear =>
    refine .ok ⟨?_, h.failures⟩
    rw [Agenda.clear, Timeline.roll_clear, h.roll]
  | takeFailures =>
    rw [Agenda.step, step, Agenda.takeFailures, h.failures]
    exact .ok ⟨h.roll, rfl⟩

theorem steps_agree {a : Agenda ε} {w : Worklist ε} (h : Mirrors a w) (ops : List (AgendaOp ε))
    (context : κ) : Agree (Agenda.steps ops a context) (steps ops w context) := by
  induction ops generalizing a w context with
  | nil => exact .ok h
  | cons op ops ih =>
    have hs := step_agree h op context
    rw [Agenda.steps, steps]
    generalize a.step context op = x at hs
    generalize w.step context op = y at hs
    cases hs with
    | fault fault => exact .fault fault
    | @ok reply a w context h =>
      have hr := ih h context
      simp only [Checked.ok_bind]
      generalize Agenda.steps ops a context = x at hr
      generalize steps ops w context = y at hr
      cases hr with
      | fault fault => exact .fault fault
      | ok h => exact .ok h

omit [ToString ε] [Executable ε κ] in
theorem succeeded_append_refused_perm (verdicts : List (Waiting ε × Except String Unit)) :
    (succeeded verdicts ++ (refused verdicts).map (·.1)).Perm (verdicts.map (·.1)) := by
  induction verdicts with
  | nil => exact .refl _
  | cons v verdicts ih =>
    obtain ⟨task, verdict⟩ := v
    cases verdict with
    | ok _ => exact ih.cons task
    | error error => exact List.perm_middle.trans (ih.cons task)

theorem step_all {w w' : Worklist ε} {op : AgendaOp ε} {context context' : κ} {reply : AgendaReply}
    (h : w.step context op = .ok (reply, w', context')) :
    w'.all.Perm (w.all ++ Waiting.enumerate w.roll.arrivals op.task?.toList) ∧
      w'.roll.arrivals = w.roll.arrivals + op.task?.toList.length := by
  cases op with
  | schedule task time =>
    cases h
    refine ⟨?_, rfl⟩
    simp only [all, Roll.add, AgendaOp.task?, Option.toList, Waiting.enumerate, List.append_assoc]
    exact .refl _
  | run now =>
    rw [step] at h
    obtain ⟨⟨verdicts, d⟩, hp, h⟩ := Checked.bind_eq_ok.1 h
    cases h
    refine ⟨?_, rfl⟩
    have hv := succeeded_append_refused_perm verdicts
    rw [map_fst_perform hp] at hv
    have hr := (hv.append_right (w.roll.after now).waiting).trans (w.roll.due_append_after_perm now)
    simp only [all, AgendaOp.task?, Option.toList, Waiting.enumerate, List.append_nil]
    rw [← Multiset.coe_eq_coe] at hr ⊢
    simp only [← Multiset.coe_add] at hr ⊢
    rw [← hr]
    abel
  | clear =>
    cases h
    refine ⟨?_, rfl⟩
    simp only [all, Roll.clear, AgendaOp.task?, Option.toList, Waiting.enumerate,
      List.append_assoc, List.append_nil]
    exact .refl _
  | takeFailures =>
    cases h
    refine ⟨?_, rfl⟩
    simp only [all, AgendaOp.task?, Option.toList, Waiting.enumerate, List.append_nil]
    exact .refl _

theorem steps_all {ops : List (AgendaOp ε)} {w w' : Worklist ε} {context context' : κ}
    {replies : List AgendaReply} (h : steps ops w context = .ok (replies, w', context')) :
    w'.all.Perm (w.all ++ Waiting.enumerate w.roll.arrivals (ops.filterMap (·.task?))) := by
  induction ops generalizing w context replies with
  | nil =>
    cases h
    rw [List.filterMap_nil, Waiting.enumerate, List.append_nil]
  | cons op ops ih =>
    rw [steps] at h
    obtain ⟨⟨reply, v, d⟩, hs, h⟩ := Checked.bind_eq_ok.1 h
    obtain ⟨⟨rest, v', d'⟩, hr, h⟩ := Checked.bind_eq_ok.1 h
    cases h
    obtain ⟨hv, ha⟩ := step_all hs
    have hw := ih hr
    rw [ha] at hw
    have ht : (op :: ops).filterMap (·.task?) = op.task?.toList ++ ops.filterMap (·.task?) := by
      cases op <;> rfl
    rw [ht, Waiting.enumerate_append, ← List.append_assoc]
    exact hw.trans (hv.append_right _)

end MeshNet.Worklist

namespace MeshNet.Agenda

variable {ε κ : Type} [ToString ε] [Executable ε κ]

theorem steps_refine_worklist (ops : List (AgendaOp ε)) (context : κ) :
    (∀ fault, steps ops ∅ context = .error fault ↔ Worklist.steps ops {} context = .error fault) ∧
    ∀ replies a context', steps ops ∅ context = .ok (replies, a, context') →
      ∃ w, Worklist.steps ops {} context = .ok (replies, w, context') ∧
        a.pending.roll = w.roll ∧ a.failures = w.failures ∧
        a.pending.queue = w.roll.waiting.mergeSort (·.time ≤ ·.time) ∧
        a.pending.next? = w.roll.next? ∧ a.pending.size = w.roll.waiting.length ∧
        w.all.Perm (Waiting.enumerate 0 (ops.filterMap (·.task?))) ∧
        w.all.Pairwise (·.number ≠ ·.number) := by
  have start : Worklist.Mirrors (∅ : Agenda ε) {} := ⟨Timeline.roll_empty, rfl⟩
  have h := Worklist.steps_agree start ops context
  generalize hx : steps ops ∅ context = x at h
  generalize hy : Worklist.steps ops {} context = y at h
  cases h with
  | fault fault =>
    refine ⟨fun fault' => ?_, nofun⟩
    rw [Except.error.injEq, Except.error.injEq]
  | @ok replies a w d h =>
    refine ⟨fun fault => ⟨nofun, nofun⟩, fun replies' a' d' he => ?_⟩
    cases he
    have hw : w.all.Perm (Waiting.enumerate 0 (ops.filterMap (·.task?))) :=
      Worklist.steps_all hy
    obtain ⟨hqueue, hnext, hsize⟩ := Timeline.spec_of_roll_eq h.roll
    exact ⟨w, rfl, h.roll, h.failures, hqueue, hnext, hsize, hw,
      Waiting.distinct_of_perm_enumerate hw⟩

theorem steps_refine_worklist_failed_crash :
    let ops : List (AgendaOp Event) :=
      [.schedule (.crash ⟨7⟩) 5, .schedule .heal 5, .schedule (.drop ⟨⟨1⟩, ⟨2⟩⟩) 3, .run 4, .run 6,
        .schedule .heal 1, .clear, .takeFailures]
    let mesh : Mesh Builtin := { network := .seeded 1 }
    ∃ replies a mesh' w, steps ops ∅ mesh = .ok (replies, a, mesh') ∧
      Worklist.steps ops {} mesh = .ok (replies, w, mesh') ∧
      replies = [.done, .done, .done, .executed 1, .executed 1, .done, .done,
        .taken [⟨5, 6, "crash node N7", "node N7 not found"⟩]] := by
  intro ops mesh
  obtain ⟨w, hw, -⟩ := (steps_refine_worklist ops mesh).2 _ _ _ rfl
  refine ⟨_, _, _, w, rfl, hw, ?_⟩
  decide +kernel

end MeshNet.Agenda
