import MeshNet.Decimal.Reading
import MeshNet.Toml.Value

namespace MeshNet.Toml.Value

variable {α : Type}

/-- The key of the only entry of a date-time that is taken for a table. -/
def dateTimeKey : String := "$__toml_private_datetime"

def entries? : Value → Option Table
  | .table es => some es
  | .dateTime s => some [(dateTimeKey, .text s)]
  | _ => none

def items? : Value → Option (List Value)
  | .array vs => some vs
  | _ => none

def text? : Value → Option String
  | .text s => some s
  | _ => none

def flag? : Value → Option Bool
  | .boolean b => some b
  | _ => none

def word32? : Value → Option UInt32
  | .integer n => if 0 ≤ n ∧ n < UInt32.size then some (.ofNat n.toNat) else none
  | _ => none

def word64? : Value → Option UInt64
  | .integer n => if 0 ≤ n ∧ n < UInt64.size then some (.ofNat n.toNat) else none
  | _ => none

def float? : Value → Option Float
  | .float x => some x
  | .integer n => some (Decimal.toFloat (n < 0) n.natAbs 0)
  | _ => none

def isRecord (v : Value) : Bool := v.items?.isSome || v.entries?.isSome

def field? (v : Value) (place : Nat) (name : String) : Option Value :=
  match v with
  | .array vs => vs[place]?
  | v => (v.entries?.getD []).lookup name

def need (v : Value) (place : Nat) (name : String) (read : Value → Option α) : Option α :=
  (v.field? place name).bind read

def maybe (v : Value) (place : Nat) (name : String) (read : Value → Option α) (default : α) :
    Option α :=
  match v.field? place name with
  | some w => read w
  | none => some default

end MeshNet.Toml.Value
