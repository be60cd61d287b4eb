import MeshNet.Agenda
import MeshNet.Proofs.Queue.Roll

namespace MeshNet

inductive AgendaOp (ε : Type) where
  | schedule (task : ε) (time : Time)
  | run (now : Time)
  | clear
  | takeFailures

inductive AgendaReply where
  | done
  | executed (count : Nat)
  | taken (failures : List Failure)
deriving DecidableEq, Repr

def AgendaOp.task? {ε : Type} : AgendaOp ε → Option (Time × ε)
  | schedule task time => some (time, task)
  | run _ | clear | takeFailures => none

namespace Agenda

variable {ε κ : Type} [ToString ε] [Executable ε κ]

def step (a : Agenda ε) (context : κ) : AgendaOp ε → Checked (AgendaReply × Agenda ε × κ)
  | .schedule task time => .ok (.done, a.schedule task time, context)
  | .run now => do
    let (count, a, context) ← a.run now context
    return (.executed count, a, context)
  | .clear => .ok (.done, a.clear, context)
  | .takeFailures => .ok (.taken a.takeFailures.1, a.takeFailures.2, context)

def steps : List (AgendaOp ε) → Agenda ε → κ → Checked (List AgendaReply × Agenda ε × κ)
  | [], a, context => .ok ([], a, context)
  | op :: ops, a, context => do
    let (reply, a, context) ← a.step context op
    let (replies, a, context) ← steps ops a context
    return (reply :: replies, a, context)

end Agenda

structure Worklist (ε : Type) where
  roll : Roll ε := {}
  failures : List Failure := []
  executed : List (Waiting ε) := []
  failed : List (Waiting ε) := []
  cleared : List (Waiting ε) := []

namespace Worklist

variable {ε κ : Type}

section Run

variable [Executable ε κ]

def perform (now : Time) :
    List (Waiting ε) → κ → Checked (List (Waiting ε × Except String Unit) × κ)
  | [], context => .ok ([], context)
  | task :: tasks, context => do
    let (verdict, context) ← ((Executable.perform task.item now).run.run context : Checked _)
    let (verdicts, context) ← perform now tasks context
    return ((task, verdict) :: verdicts, context)

theorem map_fst_perform {now : Time} {tasks : List (Waiting ε)} {context context' : κ}
    {verdicts : List (Waiting ε × Except String Unit)}
    (h : perform now tasks context = .ok (verdicts, context')) : verdicts.map (·.1) = tasks := by
  induction tasks generalizing context verdicts with
  | nil =>
    cases h
    rfl
  | cons task tasks ih =>
    rw [perform] at h
    obtain ⟨⟨verdict, d⟩, -, h⟩ := Checked.bind_eq_ok.1 h
    obtain ⟨⟨rest, d'⟩, hr, h⟩ := Checked.bind_eq_ok.1 h
    cases h
    rw [List.map_cons, ih hr]

end Run

def succeeded (verdicts : List (Waiting ε × Except String Unit)) : List (Waiting ε) :=
  (verdicts.filter fun v => v.2.isOk).map (·.1)

def refused (verdicts : List (Waiting ε × Except String Unit)) : List (Waiting ε × String) :=
  verdicts.filterMap fun
    | (_, .ok ()) => none
    | (task, .error error) => some (task, error)

def report [ToString ε] (now : Time) (r : Waiting ε × String) : Failure where
  time := r.1.time
  processedAt := now
  description := toString r.1.item
  error := r.2

variable [ToString ε] [Executable ε κ]

def step (w : Worklist ε) (context : κ) : AgendaOp ε → Checked (AgendaReply × Worklist ε × κ)
  | .schedule task time => .ok (.done, { w with roll := w.roll.add time task }, context)
  | .run now => do
    let (verdicts, context) ← perform now (w.roll.due now) context
    return (.executed (succeeded verdicts).length,
      { w with
        roll := w.roll.after now
        failures := w.failures ++ (refused verdicts).map (report now)
        executed := w.executed ++ succeeded verdicts
        failed := w.failed ++ (refused verdicts).map (·.1) },
      context)
  | .clear =>
    .ok (.done, { w with roll := w.roll.clear, cleared := w.cleared ++ w.roll.waiting }, context)
  | .takeFailures => .ok (.taken w.failures, { w with failures := [] }, context)

def steps : List (AgendaOp ε) → Worklist ε → κ → Checked (List AgendaReply × Worklist ε × κ)
  | [], w, context => .ok ([], w, context)
  | op :: ops, w, context => do
    let (reply, w, context) ← w.step context op
    let (replies, w, context) ← steps ops w context
    return (reply :: replies, w, context)

def outcome (now : Time) : Waiting ε × Except String Unit → Option Failure
  | (_, .ok ()) => none
  | (task, .error error) => some (report now (task, error))

theorem performAll_eq (now : Time) (tasks : List (Waiting ε)) (context : κ) :
    Agenda.performAll now tasks context =
      (fun p => (p.1.map (outcome now), p.2)) <$> perform now tasks context := by
  induction tasks generalizing context with
  | nil => rfl
  | cons task tasks ih =>
    rw [Agenda.performAll, perform, Agenda.perform]
    cases h : ((Executable.perform task.item now).run.run context : Checked _) with
    | error fault => rfl
    | ok r =>
      obtain ⟨verdict, context⟩ := r
      cases hr : perform now tasks context with
      | error fault => cases verdict <;> simp [ih, hr]
      | ok r => cases verdict <;> simp [ih, hr, outcome, report]

theorem countP_outcome (now : Time) (verdicts : List (Waiting ε × Except String Unit)) :
    (verdicts.map (outcome now)).countP Option.isNone = (succeeded verdicts).length := by
  induction verdicts with
  | nil => rfl
  | cons v verdicts ih =>
    obtain ⟨task, verdict⟩ := v
    rw [List.map_cons]
    cases verdict with
    | ok _ =>
      rw [List.countP_cons_of_pos rfl, ih]
      rfl
    | error error =>
      rw [List.countP_cons_of_neg Bool.false_ne_true, ih]
      rfl

theorem filterMap_outcome (now : Time) (verdicts : List (Waiting ε × Except String Unit)) :
    (verdicts.map (outcome now)).filterMap id = (refused verdicts).map (report now) := by
  induction verdicts with
  | nil => rfl
  | cons v verdicts ih =>
    obtain ⟨task, verdict⟩ := v
    cases verdict with
    | ok _ => exact ih
    | error error => exact congrArg (report now (task, error) :: ·) ih

end Worklist

theorem Agenda.run_eq_ok {ε κ : Type} [ToString ε] [Executable ε κ] {a a' : Agenda ε} {now : Time}
    {context context' : κ} {count : Nat} (h : a.run now context = .ok (count, a', context')) :
    ∃ verdicts, Worklist.perform now (a.pending.ready now) context = .ok (verdicts, context') ∧
      count = (Worklist.succeeded verdicts).length ∧ a'.pending = a.pending.after now ∧
      a'.failures = a.failures ++ (Worklist.refused verdicts).map (Worklist.report now) := by
  rw [run, Worklist.performAll_eq] at h
  obtain ⟨⟨outcomes, d⟩, hp, h⟩ := Checked.bind_eq_ok.1 h
  obtain ⟨⟨verdicts, d'⟩, hv, he⟩ := Checked.map_eq_ok.1 hp
  cases he
  cases h
  exact ⟨verdicts, hv, Worklist.countP_outcome now verdicts, rfl,
    congrArg (a.failures ++ ·) (Worklist.filterMap_outcome now verdicts)⟩

end MeshNet
