

namespace MeshNet.Numeral

def digitValue (c : Char) : Nat := c.toNat - '0'.toNat

def ofDigits (cs : List Char) : Nat := cs.foldl (fun n c => 10 * n + digitValue c) 0

def natural? (cs : List Char) : Option Nat :=
  if cs ≠ [] ∧ cs.all Char.isDigit then some (ofDigits cs) else none

def within? (low high : Int) (text : String) : Option Int :=
  let number : Option Int :=
    match text.toList with
    | '+' :: cs => natural? cs
    | '-' :: cs => if low < 0 then (natural? cs).map (-·) else none
    | cs => natural? cs
  number.filter fun n => low ≤ n ∧ n ≤ high

def word32? (text : String) : Option UInt32 :=
  (within? 0 (UInt32.size - 1) text).map fun n => .ofNat n.toNat

def word64? (text : String) : Option UInt64 :=
  (within? 0 (UInt64.size - 1) text).map fun n => .ofNat n.toNat

def int64? (text : String) : Option Int64 :=
  (within? Int64.minValue.toInt Int64.maxValue.toInt text).map .ofInt

def flag? : String → Option Bool
  | "true" => some true
  | "false" => some false
  | _ => none

end MeshNet.Numeral
