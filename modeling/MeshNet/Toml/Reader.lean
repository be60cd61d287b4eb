

namespace MeshNet.Toml

abbrev Reader (α : Type) := StateT (List Char) Option α

namespace Reader

variable {α : Type}

def peek : Reader (Option Char) := return (← get).head?

def satisfy (p : Char → Bool) : Reader Char
  | c :: cs => if p c then some (c, cs) else none
  | [] => none

def char (c : Char) : Reader Unit := discard (satisfy (· == c))

def word : List Char → Reader Unit
  | [] => return
  | c :: cs => do char c; word cs

def run (p : Char → Bool) : Reader (List Char) := fun cs => some (cs.takeWhile p, cs.dropWhile p)

def run1 (p : Char → Bool) : Reader (List Char) := do
  let c ← satisfy p
  return c :: (← run p)

def exactly (p : Char → Bool) : Nat → Reader (List Char)
  | 0 => return []
  | n + 1 => do
    let c ← satisfy p
    return c :: (← exactly p n)

def manyFrom (r : Reader α) (cs : List Char) : List α × List Char :=
  match r cs with
  | none => ([], cs)
  | some (a, rest) =>
    if rest.length < cs.length then
      let (as, rest) := manyFrom r rest
      (a :: as, rest)
    else ([], cs)
termination_by cs.length

def many (r : Reader α) : Reader (List α) := fun cs => some (manyFrom r cs)

def separated (r : Reader α) (separator : Reader Unit) : Reader (List α) := do
  let a ← r
  return a :: (← many do separator; r)

def atEnd : Reader Unit
  | [] => some ((), [])
  | _ :: _ => none

end Reader

end MeshNet.Toml
