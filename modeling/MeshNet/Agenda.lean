import MeshNet.Fault
import MeshNet.Timeline

namespace MeshNet

class Executable (ε κ : Type) where
  perform : ε → Time → ExceptT String (StateT κ Checked) Unit

structure Failure where
  time : Time
  processedAt : Time
  description : String
  error : String
deriving DecidableEq, Repr

structure Agenda (ε : Type) where
  pending : Timeline ε := ∅
  failures : List Failure := []

namespace Agenda

variable {ε κ : Type}

instance : EmptyCollection (Agenda ε) := ⟨{}⟩

def schedule (a : Agenda ε) (task : ε) (time : Time) : Agenda ε :=
  { a with pending := a.pending.insert time task }

def clear (a : Agenda ε) : Agenda ε := { a with pending := a.pending.clear }

def takeFailures (a : Agenda ε) : List Failure × Agenda ε := (a.failures, { a with failures := [] })

section Run

variable [ToString ε] [Executable ε κ]

def perform (now : Time) (task : Waiting ε) (context : κ) : Checked (Option Failure × κ) := do
  let (outcome, context) ← ((Executable.perform task.item now).run.run context : Checked _)
  return match outcome with
    | .ok () => (none, context)
    | .error error =>
      (some { time := task.time, processedAt := now, description := toString task.item, error },
        context)

def performAll (now : Time) : List (Waiting ε) → κ → Checked (List (Option Failure) × κ)
  | [], context => .ok ([], context)
  | task :: tasks, context => do
    let (outcome, context) ← perform now task context
    let (outcomes, context) ← performAll now tasks context
    return (outcome :: outcomes, context)

def run (a : Agenda ε) (now : Time) (context : κ) : Checked (Nat × Agenda ε × κ) := do
  let (outcomes, context) ← performAll now (a.pending.ready now) context
  return (outcomes.countP Option.isNone,
    { pending := a.pending.after now, failures := a.failures ++ outcomes.filterMap id }, context)

end Run

def describe (a : Agenda ε) : String :=
  let next : String :=
    match a.pending.next? with
    | some time => "Some(" ++ time.toNat.repr ++ ")"
    | none => "None"
  "EventScheduler \x7b pending_count: " ++ a.pending.size.repr ++ ", next_event_time: " ++ next ++
    ", failures: " ++ a.failures.length.repr ++ " \x7d"

end Agenda

end MeshNet
