import MeshNet.Fault
import MeshNet.Time

namespace MeshNet

structure Timer where
  interval : UInt64 := 0
  deadline : Time := 0
deriving DecidableEq, Repr, Inhabited

namespace Timer

def defaultInterval : UInt64 := 5000

def due (t : Timer) (now : Time) : Bool := t.deadline ≤ now

def rearm (t : Timer) (now : Time) : Checked Timer := do
  return { t with deadline := ← Fault.deadlineOverflow.require (now.advance? t.interval) }

def start (interval : UInt64) (now : Time) : Checked Timer :=
  rearm { interval := max interval 1 } now

theorem deadline_of_rearm {t u : Timer} {now : Time} (h : t.rearm now = .ok u) :
    u.interval = t.interval ∧ u.deadline.toNat = now.toNat + t.interval.toNat := by
  unfold rearm at h
  cases ha : now.advance? t.interval with
  | none => rw [ha] at h; cases h
  | some d => rw [ha] at h; cases h; exact ⟨rfl, Time.advance?_eq_some_iff.1 ha⟩

end Timer

end MeshNet
