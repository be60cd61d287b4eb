import MeshNet.Condition.Loss
import MeshNet.Decimal.Layout
import MeshNet.Node.Error

namespace MeshNet

inductive PartitionError where
  | tooFewGroups (groups : Nat)
  /-- Groups are counted from one. -/
  | emptyGroup (index : Nat)
  | repeatedNode (id : NodeId)
deriving DecidableEq, Repr

def PartitionError.message : PartitionError → String
  | tooFewGroups groups => "need at least 2 groups, got " ++ groups.repr
  | emptyGroup index => "group " ++ index.repr ++ " is empty"
  | repeatedNode id => "node " ++ id.label ++ " appears in more than one group"

inductive EventError where
  | invalidPartition (reason : PartitionError)
  | node (error : NodeError)
  | condition (error : ConditionError)
deriving DecidableEq

def EventError.message : EventError → String
  | invalidPartition reason => "invalid partition: " ++ reason.message
  | node error => error.message
  | condition error => error.message

abbrev Groups := List (List NodeId)

namespace Groups

def Valid (g : Groups) : Prop := 2 ≤ g.length ∧ [] ∉ g ∧ g.flatten.Nodup

instance (g : Groups) : Decidable g.Valid := inferInstanceAs (Decidable (_ ∧ _ ∧ _))

def firstRepeat? (seen : List NodeId) : List NodeId → Option NodeId
  | [] => none
  | id :: ids => if id ∈ seen then some id else firstRepeat? (id :: seen) ids

theorem firstRepeat?_eq_none_iff {seen ids : List NodeId} :
    firstRepeat? seen ids = none ↔ (∀ id ∈ ids, id ∉ seen) ∧ ids.Nodup := by
  induction ids generalizing seen with
  | nil => simp [firstRepeat?]
  | cons id ids ih =>
    rw [firstRepeat?]
    split
    · next h => simp [h]
    · next h =>
      rw [ih, List.nodup_cons]
      simp only [List.mem_cons, not_or]
      constructor
      · rintro ⟨hs, hn⟩
        exact ⟨fun i hi => hi.elim (· ▸ h) fun hi => (hs i hi).2,
          fun hm => (hs id hm).1 rfl, hn⟩
      · rintro ⟨hs, hm, hn⟩
        exact ⟨fun i hi => ⟨fun he => hm (he ▸ hi), hs i (.inr hi)⟩, hn⟩

def check (g : Groups) : Except EventError Groups :=
  if g.length < 2 then .error (.invalidPartition (.tooFewGroups g.length))
  else
    match g.findIdx? (·.isEmpty), firstRepeat? [] g.flatten with
    | some index, _ => .error (.invalidPartition (.emptyGroup (index + 1)))
    | none, some id => .error (.invalidPartition (.repeatedNode id))
    | none, none => .ok g

theorem check_eq_ok_iff {g h : Groups} : g.check = .ok h ↔ g = h ∧ g.Valid := by
  have he : g.findIdx? (·.isEmpty) = none ↔ [] ∉ g := by
    rw [List.findIdx?_eq_none_iff]
    constructor
    · exact fun hx hm => by simpa using hx _ hm
    · exact fun hm x hx => by cases x with
        | nil => exact absurd hx hm
        | cons => rfl
  have hr : firstRepeat? [] g.flatten = none ↔ g.flatten.Nodup := by
    simp [firstRepeat?_eq_none_iff]
  unfold check Valid
  rw [← he, ← hr]
  split
  · next hl => simp; omega
  · next hl =>
    have hl : 2 ≤ g.length := by omega
    split <;> simp_all

def crossing : Groups → List Link
  | [] => []
  | group :: rest =>
    (group.flatMap fun source => rest.flatten.map fun target => ⟨source, target⟩) ++ crossing rest

end Groups

inductive Event where
  | start (id : NodeId)
  /-- A stop; `graceful` is only for the record. -/
  | stop (id : NodeId) (graceful : Bool)
  | crash (id : NodeId)
  | restart (id : NodeId)
  | drop (connection : Link)
  | restore (connection : Link)
  | degrade (connection : Link) (latency : UInt32) (loss : Float)
  | partition (groups : Groups)
  | heal

namespace Event

def degradation (connection : Link) : Event := .degrade connection 500 0.30

def degrading (connection : Link) (latency : UInt32) (loss : Float) : Except EventError Event :=
  match LossModel.independent loss with
  | .ok _ => .ok (.degrade connection latency loss)
  | .error e => .error (.condition e)

def partitioning (groups : Groups) : Except EventError Event := groups.check.map .partition

def connectionText (l : Link) : String := l.source.label ++ " <-> " ++ l.target.label

def describe : Event → String
  | start id => "start node " ++ id.label
  | stop id graceful => "stop node " ++ id.label ++ (if graceful then " (graceful)" else "")
  | crash id => "crash node " ++ id.label
  | restart id => "restart node " ++ id.label
  | drop l => "drop connection " ++ connectionText l
  | restore l => "restore connection " ++ connectionText l
  | degrade l latency loss =>
    "degrade connection " ++ connectionText l ++ " (latency: " ++ latency.toNat.repr ++
      ", loss: " ++ Decimal.integral (loss * 100.0) ++ "%)"
  | partition groups => "partition network into " ++ groups.length.repr ++ " groups"
  | heal => "heal network"

instance : ToString Event := ⟨describe⟩

end Event

end MeshNet
