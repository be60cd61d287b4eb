import MeshNet.Decimal.Binary

namespace MeshNet.Decimal

def nearestBits (num den : Nat) : UInt64 :=
  let estimate : Int := num.log2 - den.log2
  let exact : Int :=
    if num * Nat.pow 2 (-estimate).toNat < den * Nat.pow 2 estimate.toNat then estimate - 1
    else estimate
  let q := max (exact - Binary.fractionBits) Binary.leastExponent
  let m := roundDiv .toEven (num * Nat.pow 2 (-q).toNat) (den * Nat.pow 2 q.toNat)
  let magnitude := (q - Binary.leastExponent).toNat * Binary.fractionSize + m
  .ofNat (min magnitude ((Binary.fieldCount - 1) * Binary.fractionSize))

def reach : Nat := 400

def toFloat (negative : Bool) (digits : Nat) (exponent : Int) : Float :=
  let length := (Nat.toDigits 10 digits).length
  let magnitude : UInt64 :=
    if digits = 0 ∨ exponent + length < -reach then 0
    else if reach < exponent then nearestBits (Nat.pow 10 reach) 1
    else nearestBits (digits * Nat.pow 10 exponent.toNat) (Nat.pow 10 (-exponent).toNat)
  .ofBits (if negative then magnitude ||| 0x8000000000000000 else magnitude)

end MeshNet.Decimal
