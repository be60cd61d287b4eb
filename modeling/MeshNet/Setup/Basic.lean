import MeshNet.Fleet
import MeshNet.Network.Basic

namespace MeshNet

structure Override (μ : Type) where
  link : Link
  model : μ
deriving BEq

structure NetworkSetup where
  seed : Option UInt64 := none
  defaultLatency : LatencyModel := {}
  defaultLoss : LossModel := {}
  latencyOverrides : List (Override LatencyModel) := []
  lossOverrides : List (Override LossModel) := []
deriving BEq

structure Setup where
  network : NetworkSetup := {}
  nodes : List NodeSpec := []
deriving BEq

inductive ReadError where
  | missing
  | notText
deriving DecidableEq, Repr

def ReadError.message : ReadError → String
  | missing => "No such file or directory (os error 2)"
  | notText => "stream did not contain valid UTF-8"

inductive SetupError where
  | unreadable (reason : ReadError)
  | malformed
  | invalid (error : ConditionError)
  | node (error : NodeError)
deriving DecidableEq

def SetupError.message : SetupError → String
  | unreadable reason => "failed to read configuration: " ++ reason.message
  | malformed => "failed to parse configuration"
  | invalid error => "invalid network conditions: " ++ error.message
  | node error => "invalid node: " ++ error.message

def NetworkSetup.check (s : NetworkSetup) : Except ConditionError Unit := do
  discard s.defaultLatency.check
  discard s.defaultLoss.check
  s.latencyOverrides.forM fun o => discard o.model.check
  s.lossOverrides.forM fun o => discard o.model.check

def Network.ofSetup (s : NetworkSetup) (entropy : Random.Generator) :
    Except ConditionError Network := do
  let c : Conditions := { source := .ofSeed? s.seed entropy }
  let c ← c.setDefaultLatency s.defaultLatency
  let c ← c.setDefaultLoss s.defaultLoss
  let c ← s.latencyOverrides.foldlM (fun c o => c.setLatency o.link o.model) c
  let c ← s.lossOverrides.foldlM (fun c o => c.setLoss o.link o.model) c
  return { conditions := c }

end MeshNet
