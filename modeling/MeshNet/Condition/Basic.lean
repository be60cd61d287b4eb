import Std.Data.ExtTreeMap
import MeshNet.Link
import MeshNet.Condition.Latency
import MeshNet.Condition.Loss
import MeshNet.Random.Source

namespace MeshNet

open Std (ExtTreeMap)

structure Conditions where
  defaultLatency : {m : LatencyModel // m.Valid} := LatencyModel.usual
  latencies : ExtTreeMap Link {m : LatencyModel // m.Valid} := ∅
  defaultLoss : {m : LossModel // m.Valid} := LossModel.lossless
  losses : ExtTreeMap Link {m : LossModel // m.Valid} := ∅
  /-- How many messages the burst on a link still takes along, where there is one. -/
  bursts : ExtTreeMap Link UInt32 := ∅
  source : Random.Source

namespace Conditions

def latencyFor (c : Conditions) (l : Link) : {m : LatencyModel // m.Valid} :=
  c.latencies[l]?.getD c.defaultLatency

def lossFor (c : Conditions) (l : Link) : {m : LossModel // m.Valid} :=
  c.losses[l]?.getD c.defaultLoss

def setDefaultLatency (c : Conditions) (m : LatencyModel) : Except ConditionError Conditions :=
  m.check.map fun m => { c with defaultLatency := m }

def setLatency (c : Conditions) (l : Link) (m : LatencyModel) : Except ConditionError Conditions :=
  m.check.map fun m => { c with latencies := c.latencies.insert l m }

def setDefaultLoss (c : Conditions) (m : LossModel) : Except ConditionError Conditions :=
  m.check.map fun m =>
    { c with defaultLoss := m, bursts := c.bursts.filter fun l _ => c.losses.contains l }

def setLoss (c : Conditions) (l : Link) (m : LossModel) : Except ConditionError Conditions :=
  m.check.map fun m =>
    { c with losses := c.losses.insert l m, bursts := c.bursts.erase l }

def clearOverrides (c : Conditions) : Conditions :=
  { c with latencies := ∅, losses := ∅, bursts := ∅ }

def draw {α : Type} (c : Conditions) (d : Random.Draw α) : α × Conditions :=
  let (a, source) := c.source.run d
  (a, { c with source })

def sampleLatency (c : Conditions) (l : Link) : UInt32 × Conditions :=
  c.draw (c.latencyFor l).val.sample

def startBurst (c : Conditions) (l : Link) (m : LossModel) : Conditions :=
  if 1 < m.burstLength then { c with bursts := c.bursts.insert l (m.burstLength - 1) } else c

def continueBurst (c : Conditions) (l : Link) (left : UInt32) : Conditions :=
  { c with bursts := if 1 < left then c.bursts.insert l (left - 1) else c.bursts.erase l }

def sampleLoss (c : Conditions) (l : Link) : Bool × Conditions :=
  let m := (c.lossFor l).val
  if m.burstMode then
    match c.bursts[l]? with
    | some left => (true, c.continueBurst l left)
    | none =>
      let (lost, c) := c.draw m.begins
      (lost, if lost then c.startBurst l m else c)
  else
    let (lost, c) := c.draw m.begins
    (lost, { c with bursts := c.bursts.erase l })

end Conditions

end MeshNet
