import MeshNet.Agenda
import MeshNet.Event.Basic
import MeshNet.Mesh

namespace MeshNet

def LatencyModel.raised (m : LatencyModel) (floor : UInt32) : LatencyModel where
  min := Max.max m.min floor
  max := Max.max m.max (.ofNat (Min.min (2 * floor.toNat) (UInt32.size - 1)))
  distribution := .uniform

namespace Cuts

def cutAll (s : Cuts) (links : List Link) : Cuts := links.foldl .cutBoth s

end Cuts

namespace Fleet

variable {φ : Type}

def assign (f : Fleet φ) (id : NodeId) (tag : UInt32) : Fleet φ :=
  f.modify id fun n => { n with partition := tag }

def assignGroups (f : Fleet φ) (groups : Groups) : Fleet φ :=
  (groups.zipIdx 1).foldl (fun f group => group.1.foldl (·.assign · (.ofNat group.2)) f) f

theorem assignGroups_induction {P : Fleet φ → Prop} {f : Fleet φ} (start : P f)
    (assign : ∀ g id tag, P g → P (g.assign id tag)) (groups : Groups) : P (f.assignGroups groups) :=
  List.foldlRecOn (motive := P) _ _ start fun _ hf group _ =>
    List.foldlRecOn (motive := P) group.1 _ hf fun g hg id _ => assign g id _ hg

end Fleet

/-- Changes of a mesh by an event. An error keeps the changes made before it. -/
abbrev EventEffect (φ : Type) := ExceptT EventError (StateT (Mesh φ) Checked)

namespace EventEffect

variable {φ : Type}

def onNode (id : NodeId) (act : Node φ → ExceptT NodeError Checked (Node φ)) :
    EventEffect φ Unit := do
  match ← ((← get).fleet.onNode id act).run with
  | .ok fleet => modify fun mesh => { mesh with fleet }
  | .error e => throw (.node e)

def onNetwork (change : Network → Network) : EventEffect φ Unit :=
  modify fun mesh => { mesh with network := change mesh.network }

def onConditions (change : Conditions → Except ConditionError Conditions) : EventEffect φ Unit := do
  match (← get).network.reconfigure change with
  | .ok network => modify fun mesh => { mesh with network }
  | .error e => throw (.condition e)

def orCondition {α : Type} : Except ConditionError α → EventEffect φ α
  | .ok a => pure a
  | .error e => throw (.condition e)

def degrade (l : Link) (latency : UInt32) (loss : Float) : EventEffect φ Unit := do
  let loss ← orCondition (LossModel.independent loss)
  let conditions := (← get).network.conditions
  let forward ← orCondition ((conditions.latencyFor l).val.raised latency).check
  let backward ← orCondition ((conditions.latencyFor l.reverse).val.raised latency).check
  onConditions (·.setLatency l forward.val)
  onConditions (·.setLatency l.reverse backward.val)
  onConditions (·.setLoss l loss.val)
  onConditions (·.setLoss l.reverse loss.val)

def partition (groups : Groups) : EventEffect φ Unit := do
  match groups.check with
  | .error e => throw e
  | .ok groups =>
    modify fun mesh => { mesh with fleet := mesh.fleet.assignGroups groups }
    onNetwork fun n => { n with cuts := n.cuts.cutAll groups.crossing }

def heal : EventEffect φ Unit := do
  onNetwork .mendAll
  modify fun mesh => { mesh with fleet := mesh.fleet.map fun n => { n with partition := 0 } }

end EventEffect

open EventEffect in
def Event.perform {φ : Type} [Firmware φ] (now : Time) : Event → EventEffect φ Unit
  | start id => onNode id fun n => if n.isRunning then pure n else n.start now
  | stop id _ => onNode id fun n => n.stop now
  | crash id => onNode id fun n => n.crash now
  | restart id => onNode id fun n => n.restart now
  | drop l => onNetwork fun n => { n with cuts := n.cuts.cutBoth l }
  | restore l => onNetwork fun n => { n with cuts := n.cuts.mendBoth l }
  | degrade l latency loss => EventEffect.degrade l latency loss
  | partition groups => EventEffect.partition groups
  | heal => EventEffect.heal

instance {φ : Type} [Firmware φ] : Executable Event (Mesh φ) where
  perform e now := (e.perform now).adapt EventError.message

end MeshNet
