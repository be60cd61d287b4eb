import MeshNet.Network.Basic

namespace MeshNet

inductive Setting where
  | defaultLatency (m : LatencyModel)
  | latency (l : Link) (m : LatencyModel)
  | defaultLoss (m : LossModel)
  | loss (l : Link) (m : LossModel)
  | clearOverrides

def Setting.apply (c : Conditions) : Setting → Except ConditionError Conditions
  | defaultLatency m => c.setDefaultLatency m
  | latency l m => c.setLatency l m
  | defaultLoss m => c.setDefaultLoss m
  | loss l m => c.setLoss l m
  | clearOverrides => .ok c.clearOverrides

namespace Conditions

def sampleDrop (c : Conditions) (cuts : Cuts) (l : Link) : Bool × Conditions :=
  if cuts.active l then c.sampleLoss l else (true, c)

def sampleFate (c : Conditions) (cuts : Cuts) (l : Link) : Option UInt32 × Conditions :=
  let (dropped, c) := c.sampleDrop cuts l
  if dropped then (none, c)
  else
    let (latency, c) := c.sampleLatency l
    (some latency, c)

def models (c : Conditions) : Conditions := { c with bursts := ∅, source := default }

theorem models_sampleLoss (c : Conditions) (l : Link) : (c.sampleLoss l).2.models = c.models := by
  rw [sampleLoss]
  split
  · split
    · rfl
    · simp only [startBurst]
      split
      · split <;> rfl
      · rfl
  · rfl

theorem models_sampleDrop (c : Conditions) (cuts : Cuts) (l : Link) :
    (c.sampleDrop cuts l).2.models = c.models := by
  rw [sampleDrop]
  split
  · exact c.models_sampleLoss l
  · rfl

theorem models_sampleFate (c : Conditions) (cuts : Cuts) (l : Link) :
    (c.sampleFate cuts l).2.models = c.models := by
  have dropped := c.models_sampleDrop cuts l
  rw [sampleFate]
  revert dropped
  obtain ⟨_ | _, rest⟩ := c.sampleDrop cuts l
  · exact id
  · exact id

end Conditions

namespace Network

def configure (n : Network) (s : Setting) : Option ConditionError × Network :=
  match n.reconfigure s.apply with
  | .ok n => (none, n)
  | .error error => (some error, n)

theorem drops_eq (n : Network) (l : Link) :
    n.drops l = ((n.conditions.sampleDrop n.cuts l).1,
      { n with conditions := (n.conditions.sampleDrop n.cuts l).2 }) := by
  rw [drops, Conditions.sampleDrop]
  split <;> rfl

def book (n : Network) (m : Message) (now : Time) :
    Option UInt32 × Conditions → Option Time × Network
  | (none, conditions) => (none, { n with conditions, traffic := n.traffic.update m.link .drop })
  | (some latency, conditions) =>
    let time := now.advance latency.toUInt64
    (some time, { n with
      conditions
      inFlight := n.inFlight.insert time m
      traffic := n.traffic.update m.link (·.record latency) })

theorem enqueue_eq (n : Network) (m : Message) (now : Time) :
    n.enqueue m now = n.book m now (n.conditions.sampleFate n.cuts m.link) := by
  rw [enqueue, drops_eq, Conditions.sampleFate]
  cases n.conditions.sampleDrop n.cuts m.link with
  | mk dropped c => cases dropped <;> rfl

theorem drops_frame (n : Network) (l : Link) :
    (n.drops l).2.inFlight = n.inFlight ∧ (n.drops l).2.traffic = n.traffic := by
  rw [drops_eq]
  exact ⟨rfl, rfl⟩

theorem configure_frame (n : Network) (s : Setting) :
    (n.configure s).2.inFlight = n.inFlight ∧ (n.configure s).2.traffic = n.traffic := by
  rw [configure, reconfigure]
  cases s.apply n.conditions <;> exact ⟨rfl, rfl⟩

theorem enqueue_cases (n : Network) (m : Message) (now : Time) :
    ((n.enqueue m now).1 = none ∧ (n.enqueue m now).2.inFlight = n.inFlight ∧
      (n.enqueue m now).2.traffic = n.traffic.update m.link .drop ∧
      (n.conditions.sampleFate n.cuts m.link).1 = none) ∨
    ∃ latency : UInt32, (n.enqueue m now).1 = some (now.advance latency.toUInt64) ∧
      (n.enqueue m now).2.inFlight = n.inFlight.insert (now.advance latency.toUInt64) m ∧
      (n.enqueue m now).2.traffic = n.traffic.update m.link (·.record latency) ∧
      (n.conditions.sampleFate n.cuts m.link).1 = some latency := by
  rw [enqueue_eq]
  obtain ⟨_ | latency, conditions⟩ := n.conditions.sampleFate n.cuts m.link
  · exact .inl ⟨rfl, rfl, rfl, rfl⟩
  · exact .inr ⟨latency, rfl, rfl, rfl, rfl⟩

theorem cuts_drops (n : Network) (l : Link) : (n.drops l).2.cuts = n.cuts := by
  rw [drops_eq]

theorem cuts_configure (n : Network) (s : Setting) : (n.configure s).2.cuts = n.cuts := by
  rw [configure, reconfigure]
  cases s.apply n.conditions <;> rfl

theorem cuts_enqueue (n : Network) (m : Message) (now : Time) :
    (n.enqueue m now).2.cuts = n.cuts := by
  rw [enqueue_eq]
  obtain ⟨_ | latency, conditions⟩ := n.conditions.sampleFate n.cuts m.link <;> rfl

end Network

end MeshNet
