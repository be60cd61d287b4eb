import MeshNet.Setup.Basic
import MeshNet.Toml.Field

namespace MeshNet.Setup

open Toml (Value Table IsInteger)

def ofWord (n : UInt32) : Value := .integer n.toNat

def ofLatency (m : LatencyModel) : Value := .table [
  ("min", ofWord m.min), ("max", ofWord m.max), ("distribution", .text m.distribution.name)]

def ofLoss (m : LossModel) : Value := .table [
  ("probability", .float m.probability), ("burst_mode", .boolean m.burstMode),
  ("burst_length", ofWord m.burstLength)]

def ofOverride {μ : Type} (ofModel : μ → Value) (o : Override μ) : Value := .table [
  ("from", ofWord o.link.source.val), ("to", ofWord o.link.target.val), ("config", ofModel o.model)]

def entry? (key : String) (v : Option Value) : Table := (v.map (key, ·)).toList

def ofNetwork (s : NetworkSetup) : Value := .table <|
  entry? "seed" (s.seed.map fun n => .integer n.toNat) ++ [
    ("default_latency", ofLatency s.defaultLatency),
    ("default_packet_loss", ofLoss s.defaultLoss),
    ("latency_overrides", .array (s.latencyOverrides.map (ofOverride ofLatency))),
    ("packet_loss_overrides", .array (s.lossOverrides.map (ofOverride ofLoss)))]

def ofSettings (s : Settings) : Value := .table (s.toList.map fun e => (e.1, .text e.2))

def ofNode (n : NodeSpec) : Value := .table <|
  ("id", ofWord n.id.val) :: entry? "firmware" (n.firmware.map .text) ++
    [("firmware_config", ofSettings n.settings)]

def encode (s : Setup) : Option Table :=
  if s.network.seed.all fun n => IsInteger n.toNat then
    some [("network", ofNetwork s.network), ("node", .array (s.nodes.map ofNode))]
  else none

def distribution? : Value → Option Distribution
  | .text name => Distribution.ofName? name
  | .table [(name, .table [])] | .table [(name, .array [])] => Distribution.ofName? name
  | _ => none

def latency? (v : Value) : Option LatencyModel := do
  guard v.isRecord
  let d : LatencyModel := {}
  return {
    min := ← v.maybe 0 "min" Value.word32? d.min
    max := ← v.maybe 1 "max" Value.word32? d.max
    distribution := ← v.maybe 2 "distribution" distribution? d.distribution }

def loss? (v : Value) : Option LossModel := do
  guard v.isRecord
  let d : LossModel := {}
  return {
    probability := ← v.maybe 0 "probability" Value.float? d.probability
    burstMode := ← v.maybe 1 "burst_mode" Value.flag? d.burstMode
    burstLength := ← v.maybe 2 "burst_length" Value.word32? d.burstLength }

def id? (v : Value) : Option NodeId := v.word32?.map NodeId.mk

def override? {μ : Type} (model? : Value → Option μ) (v : Value) : Option (Override μ) := do
  return {
    link := ⟨← v.need 0 "from" id?, ← v.need 1 "to" id?⟩
    model := ← v.need 2 "config" model? }

def list? {α : Type} (item? : Value → Option α) (v : Value) : Option (List α) := do
  (← v.items?).mapM item?

def network? (v : Value) : Option NetworkSetup := do
  guard v.isRecord
  let d : NetworkSetup := {}
  return {
    seed := ← v.maybe 0 "seed" (fun w => some <$> w.word64?) none
    defaultLatency := ← v.maybe 1 "default_latency" latency? d.defaultLatency
    defaultLoss := ← v.maybe 2 "default_packet_loss" loss? d.defaultLoss
    latencyOverrides := ← v.maybe 3 "latency_overrides" (list? (override? latency?)) []
    lossOverrides := ← v.maybe 4 "packet_loss_overrides" (list? (override? loss?)) [] }

def settings? (v : Value) : Option Settings := do
  return .ofList (← (← v.entries?).mapM fun e => return (e.1, ← e.2.text?))

def node? (v : Value) : Option NodeSpec := do
  return {
    id := ← v.need 0 "id" id?
    firmware := ← v.maybe 1 "firmware" (fun w => some <$> w.text?) none
    settings := ← v.maybe 2 "firmware_config" settings? ∅ }

def decode (t : Table) : Option Setup := do
  let v := Value.table t
  return {
    network := ← v.maybe 0 "network" network? {}
    nodes := ← v.maybe 1 "node" (list? node?) [] }

end MeshNet.Setup
