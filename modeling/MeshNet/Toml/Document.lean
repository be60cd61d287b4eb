import MeshNet.Toml.DateTime
import MeshNet.Toml.Number
import MeshNet.Toml.Strings
import MeshNet.Toml.Tree

namespace MeshNet.Toml

open Reader

/-- Arrays and inline tables are nested less deep than this, and keys have fewer parts. -/
def nestingLimit : Nat := 80

def comment : Reader Unit := do
  char '#'
  discard (run isPlain)

def lineEnd : Reader Unit := do
  blanks
  discard (optional comment)
  newline <|> atEnd

def arraySpace : Reader Unit :=
  discard (many (discard (run1 isBlank) <|> newline <|> (do comment; newline)))

def inlineTable? (entries : List (List String × Value)) : Option Value :=
  (entries.foldlM (fun b e => Branch.assignKey e.1 e.2 b) []).map fun b => .table (Branch.toTable b)

def assignment (value : Reader Value) : Reader (List String × Value) := do
  let k ← Strings.key nestingLimit
  char '='
  blanks
  return (k, ← value)

def boolean : Reader Bool :=
  (do word "true".toList; return true) <|> (do word "false".toList; return false)

def scalar : Reader Value :=
  .text <$> Strings.string <|> .boolean <$> boolean <|> .dateTime <$> DateTime.dateTime <|>
    .float <$> Number.float <|> .integer <$> Number.integer

def value : Nat → Reader Value
  | 0 => scalar
  | depth + 1 => do
    match ← peek with
    | some '[' =>
      char '['
      let item : Reader Value := do
        arraySpace
        let v ← value depth
        arraySpace
        return v
      let items ← separated item (char ',') <|> return []
      unless items.isEmpty do discard (optional (char ','))
      arraySpace
      char ']'
      return .array items
    | some '\x7b' =>
      char '\x7b'
      let item : Reader (List String × Value) := do
        let entry ← assignment (value depth)
        blanks
        return entry
      let entries ← separated item (char ',') <|> return []
      blanks
      char '\x7d'
      inlineTable? entries
    | _ => scalar

inductive Statement where
  | header (path : List String)
  | itemHeader (path : List String)
  | assign (key : List String) (v : Value)
  | blank

def header : Reader Statement :=
  (do word ['[', '[']
      let path ← Strings.key nestingLimit
      word [']', ']']
      return .itemHeader path) <|>
  (do char '['
      let path ← Strings.key nestingLimit
      char ']'
      return .header path)

def statement : Reader Statement := do
  match ← peek with
  | none => failure
  | some '#' =>
    comment
    newline <|> atEnd
    return .blank
  | some '\n' | some '\r' =>
    newline
    return .blank
  | some '[' =>
    let s ← header
    lineEnd
    return s
  | some _ =>
    let (k, v) ← assignment (value (nestingLimit - 1))
    lineEnd
    return .assign k v

def statements : Reader (List Statement) := do
  discard (optional (char '\uFEFF'))
  blanks
  let ss ← many do
    let s ← statement
    blanks
    return s
  atEnd
  return ss

structure Draft where
  root : Branch := []
  path : List String := []

def Draft.add (d : Draft) : Statement → Option Draft
  | .blank => some d
  | .header path => return ⟨← Branch.openHeader Branch.openTable path d.root, path⟩
  | .itemHeader path => return ⟨← Branch.openHeader Branch.openItem path d.root, path⟩
  | .assign key v =>
    return { d with root := ← Branch.atHeader (Branch.assignKey key v) d.path d.root }

def parse? (text : String) : Option Table := do
  let (ss, _) ← statements text.toList
  let draft ← ss.foldlM Draft.add {}
  return Branch.toTable draft.root

end MeshNet.Toml
