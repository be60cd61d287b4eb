import MeshNet.Toml.Value

namespace MeshNet.Toml

inductive Origin where
  | header
  /-- By the header of a table inside it. -/
  | implied
  | dotted
deriving DecidableEq, Repr

inductive Tree where
  | value (v : Value)
  | table (origin : Origin) (entries : List (String × Tree))
  | tables (items : List (List (String × Tree)))
deriving Inhabited

abbrev Branch := List (String × Tree)

namespace Branch

def find? (b : Branch) (k : String) : Option Tree := List.lookup k b

def put (k : String) (t : Tree) : Branch → Branch
  | [] => [(k, t)]
  | e :: b => if e.1 = k then (k, t) :: b else e :: put k t b

def changeLast (change : Branch → Option Branch) : List Branch → Option (List Branch)
  | [] => none
  | [b] => return [← change b]
  | b :: bs => return b :: (← changeLast change bs)

def atHeader (change : Branch → Option Branch) : List String → Branch → Option Branch
  | [], b => change b
  | k :: ks, b => do
    let below ← match b.find? k with
      | none => return put k (.table .implied (← atHeader change ks [])) b
      | some (.value _) => none
      | some (.table origin c) => pure (Tree.table origin (← atHeader change ks c))
      | some (.tables items) => pure (.tables (← changeLast (atHeader change ks) items))
    return put k below b

def assign (k : String) (v : Value) (b : Branch) : Option Branch :=
  if (b.find? k).isNone then some (put k (.value v) b) else none

def assignBelow (k : String) (v : Value) : List String → Origin → Branch → Option Branch
  | [], origin, b => if origin = .dotted then assign k v b else none
  | p :: ps, _, b => do
    let below ← match b.find? p with
      | none => pure (Tree.table .dotted (← assignBelow k v ps .dotted []))
      | some (.table .header _) => none
      | some (.value _) => none
      | some (.table origin c) => pure (.table origin (← assignBelow k v ps origin c))
      | some (.tables items) => pure (.tables (← changeLast (assignBelow k v ps .header) items))
    return put p below b

def assignKey (key : List String) (v : Value) (b : Branch) : Option Branch :=
  match key.getLast?, key.dropLast with
  | none, _ => none
  | some k, [] => assign k v b
  | some k, path => assignBelow k v path .header b

def openTable (k : String) (b : Branch) : Option Branch :=
  match b.find? k with
  | none => some (put k (.table .header []) b)
  | some (.table .implied c) => some (put k (.table .header c) b)
  | _ => none

def openItem (k : String) (b : Branch) : Option Branch :=
  match b.find? k with
  | none => some (put k (.tables [[]]) b)
  | some (.tables items) => some (put k (.tables (items ++ [[]])) b)
  | _ => none

def openHeader (opening : String → Branch → Option Branch) (path : List String) (b : Branch) :
    Option Branch :=
  match path.getLast? with
  | none => none
  | some k => atHeader (opening k) path.dropLast b

end Branch

mutual

def Tree.toValue : Tree → Value
  | .value v => v
  | .table _ entries => .table (Branch.toTable entries)
  | .tables items => .array (Branch.toItems items)

def Branch.toTable : Branch → Table
  | [] => []
  | (k, t) :: b => (k, t.toValue) :: Branch.toTable b

def Branch.toItems : List Branch → List Value
  | [] => []
  | b :: bs => .table (Branch.toTable b) :: Branch.toItems bs

end

end MeshNet.Toml
