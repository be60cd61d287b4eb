

namespace MeshNet.Toml

inductive Value where
  | text (s : String)
  | integer (n : Int)
  | float (x : Float)
  | boolean (b : Bool)
  /-- A date, a time, or both, in its normal form. -/
  | dateTime (text : String)
  | array (items : List Value)
  /-- Keys in the order in which they were written; none occurs twice. -/
  | table (entries : List (String × Value))
deriving Inhabited

abbrev Table := List (String × Value)

def IsInteger (n : Int) : Prop := Int64.minValue.toInt ≤ n ∧ n ≤ Int64.maxValue.toInt

instance (n : Int) : Decidable (IsInteger n) := inferInstanceAs (Decidable (_ ∧ _))

end MeshNet.Toml
