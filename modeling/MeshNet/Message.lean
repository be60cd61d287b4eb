import MeshNet.Link

namespace MeshNet

abbrev Payload := List UInt8

namespace Payload

def ofText (text : String) : Payload := text.toByteArray.data.toList

end Payload

structure Message where
  link : Link
  payload : Payload
deriving DecidableEq, Repr, Inhabited

structure Outgoing where
  target : NodeId
  payload : Payload
deriving DecidableEq, Repr, Inhabited

namespace Outgoing

def sentBy (o : Outgoing) (source : NodeId) : Message := ⟨⟨source, o.target⟩, o.payload⟩

def bytes : List Outgoing → Nat
  | [] => 0
  | o :: os => o.payload.length + bytes os

end Outgoing

end MeshNet
