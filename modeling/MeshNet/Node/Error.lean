import MeshNet.Firmware.Catalogue

namespace MeshNet

inductive NodeError where
  | invalidId
  | alreadyExists (id : NodeId)
  | retired (id : NodeId)
  | capacityReached (capacity : Nat)
  | alreadyRunning (id : NodeId)
  | notFound (id : NodeId)
  | firmware (error : FirmwareError)
deriving DecidableEq, Repr

def NodeError.message : NodeError → String
  | invalidId => "node id must be non-zero"
  | alreadyExists id => "node " ++ id.label ++ " already exists"
  | retired id => "node id " ++ id.label ++ " belonged to a removed node and cannot be reused"
  | capacityReached capacity => "maximum node count reached: " ++ capacity.repr
  | alreadyRunning id => "node " ++ id.label ++ " is already running"
  | notFound id => "node " ++ id.label ++ " not found"
  | firmware error => error.message

end MeshNet
