

namespace MeshNet

inductive Fault where
  | uptimeOverflow
  | deadlineOverflow
  | invalidProbability
  /-- A text to be written has more quotes in a row than are counted. -/
  | quoteRunOverflow
deriving DecidableEq, Repr

abbrev Checked := Except Fault

def Fault.require {α : Type} (fault : Fault) : Option α → Checked α
  | some a => .ok a
  | none => .error fault

namespace Checked

variable {α β : Type}

@[simp] theorem ok_bind (a : α) (f : α → Checked β) : (.ok a : Checked α) >>= f = f a := rfl

@[simp] theorem error_bind (fault : Fault) (f : α → Checked β) :
    (.error fault : Checked α) >>= f = .error fault := rfl

@[simp] theorem pure_def (a : α) : (pure a : Checked α) = .ok a := rfl

@[simp] theorem map_ok (f : α → β) (a : α) : f <$> (.ok a : Checked α) = .ok (f a) := rfl

@[simp] theorem map_error (f : α → β) (fault : Fault) :
    f <$> (.error fault : Checked α) = .error fault := rfl

theorem bind_eq_ok {x : Checked α} {f : α → Checked β} {b : β} :
    x >>= f = .ok b ↔ ∃ a, x = .ok a ∧ f a = .ok b := by
  cases x with
  | error fault => simp
  | ok a => simp

theorem map_eq_ok {x : Checked α} {f : α → β} {b : β} :
    f <$> x = .ok b ↔ ∃ a, x = .ok a ∧ f a = b := by
  cases x with
  | error fault => simp
  | ok a => simp

theorem bind_eq_error {x : Checked α} {f : α → Checked β} {fault : Fault} :
    x >>= f = .error fault ↔ x = .error fault ∨ ∃ a, x = .ok a ∧ f a = .error fault := by
  cases x with
  | error raised => simp
  | ok a => simp

theorem map_eq_error {x : Checked α} {f : α → β} {fault : Fault} :
    f <$> x = .error fault ↔ x = .error fault := by
  cases x with
  | error raised => simp
  | ok a => simp

end Checked

end MeshNet
