import MeshNet.Fleet
import MeshNet.Network.Basic

namespace MeshNet

structure Mesh (φ : Type) where
  fleet : Fleet φ := ∅
  network : Network

structure UpdateReport where
  delivered : Nat := 0
  /-- Messages whose target was stopped or unknown when they arrived. -/
  undeliverable : Nat := 0
  sent : Nat := 0
  admitted : Nat := 0
deriving DecidableEq, Repr, Inhabited

namespace Fleet

variable {φ : Type}

def deliver [Firmware φ] (f : Fleet φ) (now : Time) (m : Message) : Checked (Bool × Fleet φ) :=
  match f.find? m.link.target with
  | none => .ok (false, f)
  | some n => do
    match ← n.deliver now m with
    | none => return (false, f)
    | some n => return (true, { f with nodes := f.nodes.insert m.link.target n })

def deliverAll [Firmware φ] (now : Time) : List Message → Fleet φ → Checked (List Bool × Fleet φ)
  | [], f => .ok ([], f)
  | m :: ms, f => do
    let (reached, f) ← f.deliver now m
    let (rest, f) ← deliverAll now ms f
    return (reached :: rest, f)

def reachable (running : List NodeId) (cuts : Cuts) (id : NodeId) : List NodeId :=
  running.filter fun peer => peer ≠ id ∧ cuts.active ⟨id, peer⟩

def refreshAll [Firmware φ] (f : Fleet φ) (now : Time) (cuts : Cuts) : Checked (Fleet φ) :=
  let running := f.runningIds
  f.each fun n => if n.isRunning then n.refreshPeers now (reachable running cuts n.id) else .ok n

def tickAll [Firmware φ] (f : Fleet φ) (now : Time) : Checked (Fleet φ) := f.each (·.tick now)

def unsent (f : Fleet φ) : List Message := f.toList.flatMap fun n => n.outbox.map (·.sentBy n.id)

end Fleet

def Network.enqueueAll (now : Time) : List Message → Network → List (Option Time) × Network
  | [], network => ([], network)
  | m :: ms, network =>
    let (time, network) := network.enqueue m now
    let (times, network) := enqueueAll now ms network
    (time :: times, network)

namespace Mesh

variable {φ : Type}

def work [Firmware φ] (fleet : Fleet φ) (arrived : List Message) (cuts : Cuts) (now : Time) :
    Checked (List Bool × Fleet φ) := do
  let (reached, fleet) ← (fleet.observe now).deliverAll now arrived
  let fleet ← fleet.refreshAll now cuts
  let fleet ← fleet.tickAll now
  return (reached, fleet)

def update [Firmware φ] (mesh : Mesh φ) (now : Time) : Checked (UpdateReport × Mesh φ) := do
  let (arrived, network) := mesh.network.drain now
  let (reached, fleet) ← work mesh.fleet (arrived.map (·.2)) network.cuts now
  let unsent := fleet.unsent
  let (times, network) := network.enqueueAll now unsent
  return (
    { delivered := reached.count true
      undeliverable := reached.count false
      sent := unsent.length
      admitted := times.countP Option.isSome },
    { fleet := fleet.map .flush, network })

end Mesh

end MeshNet
