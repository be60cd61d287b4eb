import MeshNet.Firmware.Basic
import MeshNet.Firmware.Timer

namespace MeshNet

structure Beacon where
  timer : Timer := {}
  broadcastsSent : Nat := 0
  messagesReceived : Nat := 0
  connectionChanges : Nat := 0
deriving DecidableEq, Repr

namespace Beacon

def intervalOf (settings : Settings) : UInt64 :=
  settings.read "broadcast_interval" Numeral.word64? Timer.defaultInterval

def greeting (id : NodeId) : Payload := .ofText ("Hello from node " ++ id.val.toNat.repr)

def react (b : Beacon) (v : View) : Callback → Checked (Reaction Beacon)
  | .setup => do
    let timer ← Timer.start (intervalOf v.settings) v.now
    return { state := { b with timer } }
  | .tick =>
    if b.timer.due v.now then do
      let timer ← b.timer.rearm v.now
      return {
        state := { b with timer, broadcastsSent := b.broadcastsSent + 1 }
        sends := v.broadcast (greeting v.self) }
    else return { state := b }
  | .receive _ _ => return { state := { b with messagesReceived := b.messagesReceived + 1 } }
  | .changedConnections =>
    return { state := { b with connectionChanges := b.connectionChanges + 1 } }
  | _ => return { state := b }

instance : Firmware Beacon where
  name _ := "simple-broadcast"
  react := react

end Beacon

end MeshNet
