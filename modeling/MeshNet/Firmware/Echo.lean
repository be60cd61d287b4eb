import MeshNet.Firmware.Basic
import MeshNet.Firmware.Timer

namespace MeshNet

def echoMark : Payload := .ofText "ECHO: "

def isEcho (payload : Payload) : Bool := echoMark.isPrefixOf payload

def echoOf (payload : Payload) : Payload := echoMark ++ payload

theorem isEcho_echoOf (payload : Payload) : isEcho (echoOf payload) = true := by
  rw [isEcho, List.isPrefixOf_iff_prefix]
  exact List.prefix_append _ _

structure EchoServer where
  echoed : Nat := 0
deriving DecidableEq, Repr

namespace EchoServer

def react (s : EchoServer) : Callback → Reaction EchoServer
  | .receive sender payload =>
    if isEcho payload then { state := s }
    else { state := { echoed := s.echoed + 1 }, sends := [⟨sender, echoOf payload⟩] }
  | _ => { state := s }

instance : Firmware EchoServer where
  name _ := "echo-server"
  react s _ c := .ok (s.react c)

end EchoServer

structure EchoClient where
  server : Option NodeId := none
  timer : Timer := {}
  requestsSent : Nat := 0
  responsesReceived : Nat := 0
deriving DecidableEq, Repr

namespace EchoClient

def serverOf (settings : Settings) : Option NodeId :=
  let n := settings.read "server_node_id" Numeral.word32? 0
  if n = 0 then none else some ⟨n⟩

def intervalOf (settings : Settings) : UInt64 :=
  settings.read "request_interval" Numeral.word64? Timer.defaultInterval

def request (n : Nat) : Payload := .ofText ("Request #" ++ n.repr)

def react (c : EchoClient) (v : View) : Callback → Checked (Reaction EchoClient)
  | .setup => do
    let timer ← Timer.start (intervalOf v.settings) v.now
    return { state := { c with server := serverOf v.settings, timer } }
  | .tick =>
    if c.timer.due v.now then do
      let payload := request c.requestsSent
      let timer ← c.timer.rearm v.now
      return {
        state := { c with timer, requestsSent := c.requestsSent + 1 }
        sends := match c.server with
          | some server => [⟨server, payload⟩]
          | none => v.broadcast payload }
    else return { state := c }
  | .receive _ payload => return {
      state :=
        if isEcho payload then { c with responsesReceived := c.responsesReceived + 1 } else c }
  | _ => return { state := c }

instance : Firmware EchoClient where
  name _ := "echo-client"
  react := react

end EchoClient

end MeshNet
