import MeshNet.Decimal.Layout
import MeshNet.Toml.Quoting
import MeshNet.Toml.Value

namespace MeshNet.Toml.Printer

def float : Decimal.FloatStyle where
  integralEnd := ".0"
  nan := "nan"

mutual

def value : Value → String
  | .text s => Quoting.string s
  | .integer n => if n < 0 then "-" ++ n.natAbs.repr else n.natAbs.repr
  | .float x => float.render x
  | .boolean b => if b then "true" else "false"
  | .dateTime text => text
  | .array vs => "[" ++ ", ".intercalate (values vs) ++ "]"
  | .table es =>
    if es.isEmpty then "\x7b\x7d" else "\x7b " ++ ", ".intercalate (entries es) ++ " \x7d"

def values : List Value → List String
  | [] => []
  | v :: vs => value v :: values vs

def entries : List (String × Value) → List String
  | [] => []
  | (k, v) :: es => (Quoting.key k ++ " = " ++ value v) :: entries es

end

mutual

def isCountable : Value → Bool
  | .text s => Quoting.isCountable s
  | .array vs => areCountable vs
  | .table es => entriesCountable es
  | _ => true

def areCountable : List Value → Bool
  | [] => true
  | v :: vs => isCountable v && areCountable vs

def entriesCountable : List (String × Value) → Bool
  | [] => true
  | (_, v) :: es => isCountable v && entriesCountable es

end

def isTable : Value → Bool
  | .table _ => true
  | _ => false

def isSection : Value → Bool
  | .table _ => true
  | .array vs => !vs.isEmpty && vs.all isTable
  | _ => false

def plainLines (t : Table) : String :=
  String.join ((entries (t.filter fun e => !isSection e.2)).map (· ++ "\n"))

def headerPath (path : List String) : String := ".".intercalate (path.map Quoting.key)

mutual

def sections (path : List String) : Table → List String
  | [] => []
  | (k, v) :: rest => sectionOf (path ++ [k]) v ++ sections path rest

def sectionOf (path : List String) : Value → List String
  | .table t =>
    (if t.isEmpty || t.any fun e => !isSection e.2 then
      ["[" ++ headerPath path ++ "]\n" ++ plainLines t] else []) ++ sections path t
  | .array vs => if vs.all isTable then items path vs else []
  | _ => []

def items (path : List String) : List Value → List String
  | .table t :: vs =>
    ("[[" ++ headerPath path ++ "]]\n" ++ plainLines t) :: sections path t ++ items path vs
  | _ :: vs => items path vs
  | [] => []

end

def document (t : Table) : String :=
  let plain := plainLines t
  "\n".intercalate ((if plain.isEmpty then [] else [plain]) ++ sections [] t)

def document? (t : Table) : Option String :=
  if entriesCountable t then some (document t) else none

end MeshNet.Toml.Printer
