import MeshNet.Decimal.Reading
import MeshNet.Text.Numeral
import MeshNet.Toml.Reader
import MeshNet.Toml.Value

namespace MeshNet.Toml.Number

open Reader

def moreDigits (p : Char → Bool) : List Char → List Char × List Char
  | c :: d :: cs =>
    if p c then
      let (ds, rest) := moreDigits p (d :: cs)
      (c :: ds, rest)
    else if c == '_' && p d then
      let (ds, rest) := moreDigits p cs
      (d :: ds, rest)
    else ([], c :: d :: cs)
  | [c] => if p c then ([c], []) else ([], [c])
  | [] => ([], [])

def digits (p : Char → Bool) : Reader (List Char) := do
  let d ← satisfy p
  let ds ← fun cs => some (moreDigits p cs)
  return d :: ds

def sign : Reader Bool := do
  match ← optional (satisfy fun c => c == '+' || c == '-') with
  | some c => return c == '-'
  | none => return false

def whole : Reader (List Char) := do
  if (← peek) = some '0' then return [← satisfy (· == '0')] else digits Char.isDigit

def signed (negative : Bool) (n : Nat) : Int := if negative then -n else n

def decimal : Reader Int := do
  let negative ← sign
  return signed negative (Numeral.ofDigits (← whole))

def digitOf (c : Char) : Nat :=
  if c.isDigit then c.toNat - '0'.toNat else c.toLower.toNat - 'a'.toNat + 10

def isDigitOf (base : Nat) (c : Char) : Bool :=
  (c.isDigit || 'a' ≤ c.toLower && c.toLower ≤ 'f') && digitOf c < base

def radix (mark : Char) (base : Nat) : Reader Int := do
  word ['0', mark]
  let ds ← digits (isDigitOf base)
  return Int.ofNat (ds.foldl (fun n c => base * n + digitOf c) 0)

def integer : Reader Int := do
  let n ← radix 'x' 16 <|> radix 'o' 8 <|> radix 'b' 2 <|> decimal
  if IsInteger n then return n else failure

def exponent : Reader Int := do
  discard (satisfy fun c => c == 'e' || c == 'E')
  let negative ← sign
  return signed negative (Numeral.ofDigits (← digits Char.isDigit))

def finite : Reader Float := do
  let negative ← sign
  let wholeDigits ← whole
  let fraction ← optional do
    char '.'
    digits Char.isDigit
  let power ← if fraction.isSome then optional exponent else some <$> exponent
  let places := fraction.getD []
  let x := Decimal.toFloat negative (Numeral.ofDigits (wholeDigits ++ places))
    (power.getD 0 - places.length)
  if x == Float.ofBits 0x7ff0000000000000 then failure else return x

def special : Reader Float := do
  let negative ← sign
  let x ← (do word "inf".toList; return Float.ofBits 0x7ff0000000000000) <|>
    (do word "nan".toList; return Float.ofBits 0x7ff8000000000000)
  return if negative then -x else x

def float : Reader Float := finite <|> special

end MeshNet.Toml.Number
