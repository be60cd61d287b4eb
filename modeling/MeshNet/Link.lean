import MeshNet.Node.Id

namespace MeshNet

structure Link where
  source : NodeId
  target : NodeId
deriving DecidableEq, Repr, Inhabited

namespace Link

def reverse (l : Link) : Link := ⟨l.target, l.source⟩

@[simp] theorem reverse_reverse (l : Link) : l.reverse.reverse = l := rfl

def label (l : Link) : String := l.source.label ++ " -> " ++ l.target.label

instance : Ord Link := ⟨compareLex (compareOn source) (compareOn target)⟩

instance : Std.TransOrd Link :=
  inferInstanceAs (Std.TransCmp (compareLex (compareOn source) (compareOn target)))

instance : Std.LawfulEqOrd Link where
  eq_of_compare {a b} h := by
    have h : (compareOn source a b).then (compareOn target a b) = .eq := h
    rw [Ordering.then_eq_eq] at h
    cases a; cases b
    exact congr (congrArg Link.mk (Std.LawfulEqOrd.eq_of_compare h.1))
      (Std.LawfulEqOrd.eq_of_compare h.2)

end Link

end MeshNet
