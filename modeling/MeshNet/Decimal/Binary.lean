import MeshNet.Decimal.Rounded

namespace MeshNet.Decimal

inductive Binary where
  | finite (negative : Bool) (m : Nat) (q : Int)
  | infinite (negative : Bool)
  | nan
deriving DecidableEq, Repr

namespace Binary

def fractionBits : Nat := 52

def fractionSize : Nat := 0x10000000000000

def fieldCount : Nat := 0x800

def leastExponent : Int := -1074

def ofBits (bits : UInt64) : Binary :=
  let negative : Bool := bits.toNat / fractionSize / fieldCount = 1
  let field : Nat := bits.toNat / fractionSize % fieldCount
  let fraction : Nat := bits.toNat % fractionSize
  if field = fieldCount - 1 then
    if fraction = 0 then .infinite negative else .nan
  else if field = 0 then .finite negative fraction leastExponent
  else .finite negative (fractionSize + fraction) (leastExponent + (field - 1))

def ofFloat (x : Float) : Binary := ofBits x.toBits

/-- The gap below a power of two is half the gap above it. -/
def narrowBelow (m : Nat) (q : Int) : Prop := m = fractionSize ∧ q ≠ leastExponent

instance (m : Nat) (q : Int) : Decidable (narrowBelow m q) :=
  inferInstanceAs (Decidable (_ ∧ _))

def nearestNat (tie : Tie) (m : Nat) (q : Int) : Nat :=
  if q < 0 then roundDiv tie m (Nat.pow 2 q.natAbs) else m * Nat.pow 2 q.natAbs

end Binary

end MeshNet.Decimal
