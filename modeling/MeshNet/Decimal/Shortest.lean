import MeshNet.Decimal.Binary

namespace MeshNet.Decimal

structure Scaled where
  digits : Nat
  exponent : Int
deriving DecidableEq, Repr

/-- Four times the reals that round to a float of value `centre`; the ends count when `closed`. -/
structure Basin where
  low : Nat
  centre : Nat
  high : Nat
  closed : Bool
deriving DecidableEq, Repr

namespace Basin

def around (m : Nat) (q : Int) (unit : Nat) : Basin where
  low := 4 * (m * unit) - (if Binary.narrowBelow m q then 1 else 2) * unit
  centre := m * unit
  high := 4 * (m * unit) + 2 * unit
  closed := m % 2 = 0

def Holds (b : Basin) (n : Nat) : Prop :=
  b.low < 4 * n ∧ 4 * n < b.high ∨ b.closed ∧ (4 * n = b.low ∨ 4 * n = b.high)

instance (b : Basin) (n : Nat) : Decidable (b.Holds n) := inferInstanceAs (Decidable (_ ∨ _))

def nearestMultiple? (b : Basin) (p : Nat) : Option Nat :=
  let n := b.centre / p
  let below := n * p
  let above := (n + 1) * p
  if b.Holds below ∧ (¬ b.Holds above ∨ b.centre - below < above - b.centre) then some n
  else if b.Holds above then some (n + 1)
  else none

def coarsest (b : Basin) : Nat → Nat × Nat
  | 0 => (b.centre, 0)
  | j + 1 =>
    match b.nearestMultiple? (Nat.pow 10 (j + 1)) with
    | some n => (n, j + 1)
    | none => b.coarsest j

end Basin

def shortest (m : Nat) (q : Int) : Scaled :=
  let places := if q < 0 then q.natAbs else 0
  let unit := if q < 0 then Nat.pow 5 q.natAbs else Nat.pow 2 q.natAbs
  let b := Basin.around m q unit
  let (n, j) := b.coarsest ((Nat.toDigits 10 b.centre).length - 1)
  ⟨n, j - places⟩

theorem nearestMultiple?_holds {b : Basin} {p n : Nat} (h : b.nearestMultiple? p = some n) :
    b.Holds (n * p) := by
  simp only [Basin.nearestMultiple?] at h
  split at h
  · next hb => cases h; exact hb.1
  · split at h
    · next ha => cases h; exact ha
    · cases h

end MeshNet.Decimal
