import Std.Data.ExtTreeSet
import MeshNet.Node.Error

namespace MeshNet

structure Metrics where
  messagesSent : Nat := 0
  messagesReceived : Nat := 0
  bytesSent : Nat := 0
  bytesReceived : Nat := 0
  crashes : Nat := 0
  /-- The length of all finished sessions. -/
  uptime : Time := 0
deriving DecidableEq, Repr, Inhabited

namespace Metrics

def receive (m : Metrics) (payload : Payload) : Metrics :=
  { m with
    messagesReceived := m.messagesReceived + 1
    bytesReceived := m.bytesReceived + payload.length }

def send (m : Metrics) (messages : List Outgoing) : Metrics :=
  { m with
    messagesSent := m.messagesSent + messages.length
    bytesSent := m.bytesSent + Outgoing.bytes messages }

end Metrics

structure Device (φ : Type) where
  firmware : φ
  settings : Settings := ∅

structure Session where
  startedAt : Time
  /-- The running nodes in reach at the last update, in ascending order. -/
  peers : List NodeId := []
  outbox : List Outgoing := []
deriving DecidableEq, Repr

structure Node (φ : Type) where
  id : NodeId
  device : Option (Device φ) := none
  /-- A stopped node has none. -/
  session : Option Session := none
  /-- The number of the node's partition group, counted from one; zero without partition. -/
  partition : UInt32 := 0
  metrics : Metrics := {}

namespace Node

variable {φ : Type}

def isRunning (n : Node φ) : Bool := n.session.isSome

def peers (n : Node φ) : List NodeId := (n.session.map (·.peers)).getD []

def outbox (n : Node φ) : List Outgoing := (n.session.map (·.outbox)).getD []

theorem peers_of_stopped {n : Node φ} (h : n.session = none) : n.peers = [] := by
  rw [peers, h]; rfl

theorem outbox_of_stopped {n : Node φ} (h : n.session = none) : n.outbox = [] := by
  rw [outbox, h]; rfl

section Lifecycle

variable [Firmware φ]

def call (n : Node φ) (now : Time) (c : Callback) : Checked (Node φ) :=
  match n.device, n.session with
  | some device, some session => do
    let view : View := ⟨n.id, now, device.settings, session.peers⟩
    let reaction ← Firmware.react device.firmware view c
    return { n with
      device := some { device with firmware := reaction.state }
      session := some { session with outbox := session.outbox ++ reaction.sends } }
  | _, _ => .ok n

def boot (n : Node φ) (now : Time) : Checked (Node φ) :=
  { n with session := some { startedAt := now } }.call now .setup

def start (n : Node φ) (now : Time) : ExceptT NodeError Checked (Node φ) :=
  if n.isRunning then throw (.alreadyRunning n.id) else n.boot now

def stop (n : Node φ) (now : Time) : Checked (Node φ) :=
  match n.session with
  | none => .ok n
  | some session => do
    let uptime ← Fault.uptimeOverflow.require
      (n.metrics.uptime.advance? (session.startedAt.elapsed now))
    return { n with session := none, metrics := { n.metrics with uptime } }

def crash (n : Node φ) (now : Time) : Checked (Node φ) := do
  if n.isRunning then
    let n ← n.stop now
    return { n with metrics := { n.metrics with crashes := n.metrics.crashes + 1 } }
  else return n

def restart (n : Node φ) (now : Time) : ExceptT NodeError Checked (Node φ) := do
  let n ← n.stop now
  n.start now

end Lifecycle

def totalUptime (n : Node φ) (now : Time) : Checked Time :=
  match n.session with
  | none => .ok n.metrics.uptime
  | some session =>
    Fault.uptimeOverflow.require (n.metrics.uptime.advance? (session.startedAt.elapsed now))

def uptime (n : Node φ) (now : Time) : Checked Time :=
  if n.isRunning then n.totalUptime now else .ok 0

def newPeers (before peers : List NodeId) : List NodeId :=
  let known := Std.ExtTreeSet.ofList before
  peers.filter fun peer => !known.contains peer

section Mail

variable [Firmware φ]

def deliver (n : Node φ) (now : Time) (m : Message) : Checked (Option (Node φ)) :=
  if n.isRunning then
    some <$> { n with metrics := n.metrics.receive m.payload }.call now
      (.receive m.link.source m.payload)
  else .ok none

def refreshPeers (n : Node φ) (now : Time) (peers : List NodeId) : Checked (Node φ) :=
  match n.session with
  | none => .ok n
  | some session =>
    if peers = session.peers then .ok n else do
      let n ← (newPeers session.peers peers).foldlM (fun n peer => n.call now (.newConnection peer))
        { n with session := some { session with peers } }
      n.call now .changedConnections

def tick (n : Node φ) (now : Time) : Checked (Node φ) := n.call now .tick

def adjustTime (n : Node φ) (now : Time) (offset : Int32) : Checked (Node φ) :=
  n.call now (.timeAdjusted offset)

end Mail

def flush (n : Node φ) : Node φ :=
  { n with
    session := n.session.map fun session => { session with outbox := [] }
    metrics := n.metrics.send n.outbox }

def describe [Firmware φ] (n : Node φ) : String :=
  let firmware : String :=
    match n.device with
    | some device => "Some(" ++ Text.quoted (Firmware.name device.firmware) ++ ")"
    | none => "None"
  "VirtualNode \x7b id: NodeId(" ++ n.id.val.toNat.repr ++ "), running: " ++
    (if n.isRunning then "true" else "false") ++
    ", partition_id: " ++ n.partition.toNat.repr ++ ", firmware: " ++ firmware ++
    ", metrics: NodeMetrics \x7b messages_sent: " ++ n.metrics.messagesSent.repr ++
    ", messages_received: " ++ n.metrics.messagesReceived.repr ++
    ", bytes_sent: " ++ n.metrics.bytesSent.repr ++
    ", bytes_received: " ++ n.metrics.bytesReceived.repr ++
    ", crash_count: " ++ n.metrics.crashes.repr ++
    ", total_uptime: " ++ n.metrics.uptime.toNat.repr ++ " \x7d \x7d"

end Node

end MeshNet
