

namespace MeshNet

structure NodeId where
  val : UInt32
deriving DecidableEq, Repr, Inhabited

namespace NodeId

def Valid (id : NodeId) : Prop := id.val ≠ 0

instance (id : NodeId) : Decidable id.Valid := inferInstanceAs (Decidable (_ ≠ _))

def label (id : NodeId) : String := "N" ++ id.val.toNat.repr

instance : Ord NodeId := ⟨compareOn val⟩

theorem compare_def (a b : NodeId) : compare a b = compare a.val b.val := rfl

instance : Std.TransOrd NodeId := inferInstanceAs (Std.TransCmp (compareOn val))

instance : Std.LawfulEqOrd NodeId where
  eq_of_compare {a b} h := by
    cases a; cases b
    exact congrArg NodeId.mk (Std.LawfulEqOrd.eq_of_compare h)

end NodeId

end MeshNet
