import MeshNet.Proofs.Conservation.Exchange
import MeshNet.Simulation

namespace MeshNet

inductive Command (φ : Type) where
  | schedule (e : Event) (time : Time)
  | advance (now : Time)
  | runUntil (last : Time) (stride : UInt64)
  | add (id : NodeId)
  | create (catalogue : Catalogue φ) (spec : NodeSpec)
  | startAll (now : Time)
  | stopAll (now : Time)
  | remove (id : NodeId) (now : Time)
  | configure (s : Setting)
  | cut (l : Link)
  | mend (l : Link)
  | mendAll
  | offer (m : Message) (now : Time)

structure Ledger (φ : Type) where
  reports : List UpdateReport := []
  offers : Nat := 0
  removed : List (Node φ) := []

namespace Ledger

variable {φ : Type}

def append (l m : Ledger φ) : Ledger φ where
  reports := l.reports ++ m.reports
  offers := l.offers + m.offers
  removed := l.removed ++ m.removed

def offered (l : Ledger φ) : Nat := (l.reports.map (·.sent)).sum + l.offers

def arrived (l : Ledger φ) : Nat := (l.reports.map fun r => r.delivered + r.undeliverable).sum

end Ledger

namespace Simulation

variable {φ : Type}

def onFleet (s : Simulation φ) (fleet : Fleet φ) : Simulation φ :=
  { s with mesh := { s.mesh with fleet } }

def onNetwork (s : Simulation φ) (network : Network) : Simulation φ :=
  { s with mesh := { s.mesh with network } }

def enroll (s : Simulation φ) : Except NodeError (Fleet φ) → Simulation φ
  | .ok fleet => s.onFleet fleet
  | .error _ => s

variable [Firmware φ]

def step (s : Simulation φ) : Command φ → Checked (Ledger φ × Simulation φ)
  | .schedule e time => .ok ({}, s.schedule e time)
  | .advance now => do
    let (report, s) ← s.advance now
    return ({ reports := [report.update] }, s)
  | .runUntil last stride => do
    let (reports, s) ← s.runUntil last stride
    return ({ reports := reports.map (·.update) }, s)
  | .add id => .ok ({}, s.enroll (s.mesh.fleet.add id))
  | .create catalogue spec => .ok ({}, s.enroll (s.mesh.fleet.create catalogue spec))
  | .startAll now => do
    let (_, fleet) ← s.mesh.fleet.startAll now
    return ({}, s.onFleet fleet)
  | .stopAll now => do
    let (_, fleet) ← s.mesh.fleet.stopAll now
    return ({}, s.onFleet fleet)
  | .remove id now => do
    let (removed, fleet) ← s.mesh.fleet.remove id now
    return ({ removed := removed.toList }, s.onFleet fleet)
  | .configure setting => .ok ({}, s.onNetwork (s.mesh.network.configure setting).2)
  | .cut l => .ok ({}, s.onNetwork (s.mesh.network.cut l))
  | .mend l => .ok ({}, s.onNetwork (s.mesh.network.mend l))
  | .mendAll => .ok ({}, s.onNetwork s.mesh.network.mendAll)
  | .offer m now => .ok ({ offers := 1 }, s.onNetwork (s.mesh.network.enqueue m now).2)

def steps : List (Command φ) → Simulation φ → Checked (Ledger φ × Simulation φ)
  | [], s => .ok ({}, s)
  | c :: cs, s => do
    let (l, s) ← s.step c
    let (m, s) ← steps cs s
    return (l.append m, s)

def exchange (s : Simulation φ) (now : Time) : Checked Exchange := do
  let (_, _, mesh) ← s.agenda.run (max s.clock now) s.mesh
  mesh.exchange (max s.clock now)

def exchangeAll : List Time → Simulation φ → Checked (List Exchange)
  | [], _ => .ok []
  | time :: times, s => do
    let x ← s.exchange time
    let (_, s) ← s.advance time
    let xs ← exchangeAll times s
    return x :: xs

def exchangesOf (s : Simulation φ) : Command φ → Checked (List Exchange)
  | .advance now => s.exchangeAll [now]
  | .runUntil last stride => s.exchangeAll (stepTimes stride last s.clock)
  | _ => .ok []

def exchanges : List (Command φ) → Simulation φ → Checked (List Exchange)
  | [], _ => .ok []
  | c :: cs, s => do
    let xs ← s.exchangesOf c
    let (_, s) ← s.step c
    let ys ← exchanges cs s
    return xs ++ ys

end Simulation

end MeshNet
