import MeshNet.Decimal.Shortest

namespace MeshNet.Decimal

def positional (d : Scaled) : String :=
  if 0 ≤ d.exponent then (d.digits * Nat.pow 10 d.exponent.natAbs).repr
  else
    let one := Nat.pow 10 d.exponent.natAbs
    let whole := d.digits / one
    let fraction := (Nat.toDigits 10 (one + d.digits % one)).drop 1
    let kept := (fraction.reverse.dropWhile (· == '0')).reverse
    if kept.isEmpty then whole.repr else whole.repr ++ "." ++ String.ofList kept

def withSign (negative : Bool) (text : String) : String :=
  if negative then "-" ++ text else text

structure FloatStyle where
  integralEnd : String
  nan : String
  infinity : String := "inf"

def FloatStyle.render (style : FloatStyle) (x : Float) : String :=
  match Binary.ofFloat x with
  | .nan => style.nan
  | .infinite negative => withSign negative style.infinity
  | .finite negative m q =>
    let text := if m = 0 then "0" else positional (shortest m q)
    withSign negative (if '.' ∈ text.toList then text else text ++ style.integralEnd)

def message : FloatStyle where
  integralEnd := ""
  nan := "NaN"

def integral (x : Float) : String :=
  match Binary.ofFloat x with
  | .nan => message.nan
  | .infinite negative => withSign negative message.infinity
  | .finite negative m q => withSign negative (Binary.nearestNat .toEven m q).repr

end MeshNet.Decimal
