import MeshNet.Condition.Basic
import MeshNet.Message
import MeshNet.Network.Cuts
import MeshNet.Network.Traffic
import MeshNet.Timeline

namespace MeshNet

structure Network where
  conditions : Conditions
  cuts : Cuts := ∅
  inFlight : Timeline Message := ∅
  traffic : Traffic := ∅

namespace Network

def ofSource (source : Random.Source) : Network where
  conditions := { source }

def seeded (seed : UInt64) : Network := ofSource (.seeded seed)

def drops (n : Network) (l : Link) : Bool × Network :=
  if n.cuts.active l then
    let (lost, conditions) := n.conditions.sampleLoss l
    (lost, { n with conditions })
  else (true, n)

def accept (n : Network) (m : Message) (now : Time) : Time × Network :=
  let (latency, conditions) := n.conditions.sampleLatency m.link
  let time := now.advance latency.toUInt64
  (time, { n with
    conditions
    inFlight := n.inFlight.insert time m
    traffic := n.traffic.update m.link (·.record latency) })

def enqueue (n : Network) (m : Message) (now : Time) : Option Time × Network :=
  let (dropped, n) := n.drops m.link
  if dropped then (none, { n with traffic := n.traffic.update m.link .drop })
  else
    let (time, n) := n.accept m now
    (some time, n)

def drain (n : Network) (now : Time) : List (Time × Message) × Network :=
  ((n.inFlight.ready now).map (·.entry), { n with inFlight := n.inFlight.after now })

def clear (n : Network) : Network := { n with inFlight := n.inFlight.clear }

def resetTraffic (n : Network) : Network := { n with traffic := ∅ }

def reconfigure (n : Network) (change : Conditions → Except ConditionError Conditions) :
    Except ConditionError Network :=
  (change n.conditions).map fun conditions => { n with conditions }

def cut (n : Network) (l : Link) : Network := { n with cuts := n.cuts.cut l }

def mend (n : Network) (l : Link) : Network := { n with cuts := n.cuts.mend l }

def mendAll (n : Network) : Network := { n with cuts := ∅ }

end Network

end MeshNet
