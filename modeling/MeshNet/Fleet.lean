import Std.Data.ExtTreeSet
import MeshNet.Node.Basic

namespace MeshNet

structure NodeSpec where
  id : NodeId
  firmware : Option String := none
  settings : Settings := ∅
deriving DecidableEq

structure Fleet (φ : Type) where
  nodes : Std.ExtTreeMap NodeId (Node φ) := ∅
  retired : Std.ExtTreeSet NodeId := ∅
  /-- The latest time that an operation on the whole fleet, or a removal, was told. -/
  lastSeen : Time := 0

namespace Fleet

variable {φ : Type}

instance : EmptyCollection (Fleet φ) := ⟨{}⟩

def capacity : Nat := 1000

def find? (f : Fleet φ) (id : NodeId) : Option (Node φ) := f.nodes[id]?

def contains (f : Fleet φ) (id : NodeId) : Bool := f.nodes.contains id

def ids (f : Fleet φ) : List NodeId := f.nodes.keys

def toList (f : Fleet φ) : List (Node φ) := f.nodes.values

def size (f : Fleet φ) : Nat := f.nodes.size

def runningIds (f : Fleet φ) : List NodeId :=
  (f.nodes.toList.filter fun e => e.2.isRunning).map (·.1)

def running (f : Fleet φ) : Nat := f.runningIds.length

def observe (f : Fleet φ) (now : Time) : Fleet φ := { f with lastSeen := max f.lastSeen now }

def put (f : Fleet φ) (n : Node φ) : Fleet φ := { f with nodes := f.nodes.insert n.id n }

def require (f : Fleet φ) (id : NodeId) : Except NodeError (Node φ) :=
  match f.find? id with
  | some n => .ok n
  | none => .error (.notFound id)

def modify (f : Fleet φ) (id : NodeId) (change : Node φ → Node φ) : Fleet φ :=
  { f with nodes := f.nodes.modify id change }

def map (f : Fleet φ) (change : Node φ → Node φ) : Fleet φ :=
  { f with nodes := f.nodes.map fun _ n => change n }

def each (f : Fleet φ) (act : Node φ → Checked (Node φ)) : Checked (Fleet φ) := do
  let nodes ← f.nodes.toList.mapM fun e => return (e.1, ← act e.2)
  return { f with nodes := .ofList nodes }

def onNode (f : Fleet φ) (id : NodeId) (act : Node φ → ExceptT NodeError Checked (Node φ)) :
    ExceptT NodeError Checked (Fleet φ) :=
  match f.find? id with
  | none => throw (.notFound id)
  | some n => do return { f with nodes := f.nodes.insert id (← act n) }

def obstacle? (f : Fleet φ) (id : NodeId) : Option NodeError :=
  if ¬ id.Valid then some .invalidId
  else if f.contains id then some (.alreadyExists id)
  else if id ∈ f.retired then some (.retired id)
  else if capacity ≤ f.size then some (.capacityReached capacity)
  else none

def add (f : Fleet φ) (id : NodeId) : Except NodeError (Fleet φ) :=
  match f.obstacle? id with
  | some e => .error e
  | none => .ok (f.put { id })

def create (f : Fleet φ) (catalogue : Catalogue φ) (spec : NodeSpec) : Except NodeError (Fleet φ) :=
  match f.obstacle? spec.id, spec.firmware with
  | some e, _ => .error e
  | none, none => .ok (f.put { id := spec.id })
  | none, some name =>
    match catalogue.create name with
    | .error e => .error (.firmware e)
    | .ok firmware =>
      .ok (f.put { id := spec.id, device := some { firmware, settings := spec.settings } })

section Passes

variable [Firmware φ]

def remove (f : Fleet φ) (id : NodeId) (now : Time) : Checked (Option (Node φ) × Fleet φ) :=
  let f := f.observe now
  match f.find? id with
  | none => .ok (none, f)
  | some n => do
    let n ← n.stop now
    return (some n, { f with nodes := f.nodes.erase id, retired := f.retired.insert id })

def startAll (f : Fleet φ) (now : Time) : Checked (Nat × Fleet φ) := do
  let g ← (f.observe now).each fun n => if n.isRunning then .ok n else n.boot now
  return (f.size - f.running, g)

def stopAll (f : Fleet φ) (now : Time) : Checked (Nat × Fleet φ) := do
  let g ← (f.observe now).each fun n => n.stop now
  return (f.running, g)

def shutdown (f : Fleet φ) : Checked (Nat × Fleet φ) := f.stopAll f.lastSeen

end Passes

theorem find?_map (f : Fleet φ) (change : Node φ → Node φ) (id : NodeId) :
    (f.map change).find? id = (f.find? id).map change := by
  rw [find?, map, Std.ExtTreeMap.getElem?_map, find?]

theorem mem_of_mapM {act : Node φ → Checked (Node φ)} {es gs : List (NodeId × Node φ)}
    (h : (es.mapM fun e => return (e.1, ← act e.2) : Checked _) = .ok gs) :
    gs.map (·.1) = es.map (·.1) ∧
      ∀ e ∈ es, ∃ m, act e.2 = .ok m ∧ (e.1, m) ∈ gs := by
  induction es generalizing gs with
  | nil => cases h; simp
  | cons e es ih =>
    rw [List.mapM_cons] at h
    cases ha : act e.2 with
    | error f => rw [ha] at h; cases h
    | ok m =>
      rw [ha] at h
      cases hes : (es.mapM fun e => return (e.1, ← act e.2) : Checked _) with
      | error f => rw [hes] at h; cases h
      | ok ms =>
        rw [hes] at h
        cases h
        obtain ⟨hk, hm⟩ := ih hes
        refine ⟨by simp [hk], fun x hx => ?_⟩
        rcases List.mem_cons.1 hx with rfl | hx
        · exact ⟨m, ha, List.mem_cons_self ..⟩
        · obtain ⟨m', ha', hm'⟩ := hm x hx
          exact ⟨m', ha', List.mem_cons_of_mem _ hm'⟩

theorem find?_each {f g : Fleet φ} {act : Node φ → Checked (Node φ)} (h : f.each act = .ok g)
    (id : NodeId) :
    (f.find? id = none → g.find? id = none) ∧
      ∀ n, f.find? id = some n → ∃ m, act n = .ok m ∧ g.find? id = some m := by
  cases hm : (f.nodes.toList.mapM fun e => return (e.1, ← act e.2) : Checked _) with
  | error e => rw [each, hm] at h; cases h
  | ok gs =>
    rw [each, hm] at h
    cases h
    obtain ⟨hk, hgs⟩ := mem_of_mapM hm
    have hd : gs.Pairwise fun a b => ¬ compare a.1 b.1 = .eq := by
      have := f.nodes.distinct_keys_toList
      rw [← List.pairwise_map (f := Prod.fst) (R := fun a b => ¬ compare a b = .eq)] at this ⊢
      rwa [hk]
    constructor
    · intro hn
      apply Std.ExtTreeMap.getElem?_ofList_of_contains_eq_false
      rw [hk]
      simpa [find?] using hn
    · intro n hn
      obtain ⟨m, ha, hmem⟩ := hgs (id, n) (Std.ExtTreeMap.mem_toList_iff_getElem?_eq_some.2 hn)
      exact ⟨m, ha, Std.ExtTreeMap.getElem?_ofList_of_mem Std.ReflCmp.compare_self hd hmem⟩

end Fleet

end MeshNet
