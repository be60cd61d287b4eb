import MeshNet.Proofs.Bounds.Guard
import MeshNet.Proofs.Fleet.Nodewise

namespace MeshNet

open Guarded (lift bounded)

namespace LinkStats

variable (s t : LinkStats) (latency : UInt32)

def guardedRecord : Guarded LinkStats := do
  let total ← bounded .latencySum (s.total + latency.toNat)
  return { s.record latency with total }

def guardedMerge : Guarded LinkStats := do
  let total ← bounded .latencySum (s.total + t.total)
  return { s.merge t with total }

def guardedAverage : Guarded UInt32 :=
  if s.delivered = 0 then .ok 0 else UInt32.ofNat <$> Guarded.quotient s.total s.delivered

theorem guardedRecord_follows :
    Follows (·.total < UInt64.size) (s.guardedRecord latency) (.ok (s.record latency)) := by
  refine Follows.bounded_bind (.of_lift _ (.ok (s.record latency))) fun a ha fits => ?_
  cases ha
  exact fits

theorem guardedMerge_follows :
    Follows (·.total < UInt64.size) (s.guardedMerge t) (.ok (s.merge t)) := by
  refine Follows.bounded_bind (.of_lift _ (.ok (s.merge t))) fun a ha fits => ?_
  cases ha
  exact fits

theorem guardedAverage_eq : s.guardedAverage = .ok s.average := by
  rw [guardedAverage, average]
  split
  · rfl
  · next some_delivered =>
    rw [Guarded.quotient, if_neg some_delivered]
    rfl

theorem total_le_foldl_merge (ss : List LinkStats) : s.total ≤ (ss.foldl merge s).total := by
  induction ss generalizing s with
  | nil => exact Nat.le_refl _
  | cons r ss ih => exact Nat.le_trans (Nat.le_add_right _ _) (ih (s.merge r))

theorem foldlM_guardedMerge_follows (ss : List LinkStats) :
    Follows (·.total < UInt64.size) (ss.foldlM guardedMerge s) (.ok (ss.foldl merge s)) := by
  induction ss generalizing s with
  | nil => exact .of_lift _ (.ok s)
  | cons r ss ih =>
    rw [List.foldlM_cons]
    refine (s.guardedMerge_follows r).bind (f := fun s => .ok (ss.foldl merge s))
      (fun a _ => ih a) fun a b _ hb fits => ?_
    cases hb
    exact Nat.lt_of_le_of_lt (a.total_le_foldl_merge ss) fits

end LinkStats

namespace Traffic

def guardedRecord (t : Traffic) (l : Link) (latency : UInt32) : Guarded Traffic := do
  let s ← (t.on l).guardedRecord latency
  return t.update l fun _ => s

def guardedTotal (t : Traffic) : Guarded LinkStats := t.stats.values.foldlM LinkStats.guardedMerge {}

theorem guardedTotal_follows (t : Traffic) :
    Follows (·.total < UInt64.size) t.guardedTotal (.ok t.total) :=
  LinkStats.foldlM_guardedMerge_follows {} t.stats.values

theorem guardedRecord_follows (t : Traffic) (l : Link) (latency : UInt32) :
    Follows (fun u => (u.on l).total < UInt64.size) (t.guardedRecord l latency)
      (.ok (t.update l (·.record latency))) := by
  refine ((t.on l).guardedRecord_follows latency).bind (f := fun s => .ok (t.update l fun _ => s))
    (fun s _ => .of_lift _ (.ok (t.update l fun _ => s))) fun s u _ hu fits => ?_
  cases hu
  rwa [on_update, if_pos rfl] at fits

end Traffic

namespace Network

variable (n : Network) (m : Message) (now : Time)

def LatenciesFit : Prop := ∀ l, (n.traffic.on l).total < UInt64.size

def guardedBook : Option UInt32 × Conditions → Guarded (Option Time × Network)
  | (none, conditions) => .ok (n.book m now (none, conditions))
  | (some latency, conditions) => do
    let traffic ← n.traffic.guardedRecord m.link latency
    return ((n.book m now (some latency, conditions)).1,
      { (n.book m now (some latency, conditions)).2 with traffic })

def guardedEnqueue : Guarded (Option Time × Network) := do
  let fate ← n.conditions.guardedFate n.cuts m.link
  n.guardedBook m now fate

def guardedEnqueueAll (now : Time) : List Message → Network → Guarded (List (Option Time) × Network)
  | [], n => .ok ([], n)
  | m :: ms, n => do
    let (time, n) ← n.guardedEnqueue m now
    let (times, n) ← guardedEnqueueAll now ms n
    return (time :: times, n)

theorem guardedBook_follows (fate : Option UInt32 × Conditions) :
    Follows (·.2.LatenciesFit) (n.guardedBook m now fate) (.ok (n.book m now fate)) := by
  obtain ⟨_ | latency, conditions⟩ := fate
  · exact .of_lift _ (.ok (n.book m now (none, conditions)))
  · let booked := n.book m now (some latency, conditions)
    refine (n.traffic.guardedRecord_follows m.link latency).bind
      (f := fun traffic => .ok (booked.1, { booked.2 with traffic }))
      (fun traffic _ => .of_lift _ (.ok (booked.1, { booked.2 with traffic })))
      fun traffic b _ hb fits => ?_
    cases hb
    exact fits m.link

variable {n m now}

theorem guardedEnqueue_follows (h : n.conditions.AllTracked) :
    Follows (·.2.LatenciesFit) (n.guardedEnqueue m now) (.ok (n.enqueue m now)) := by
  rw [guardedEnqueue, Conditions.guardedFate_eq (h m.link), enqueue_eq, Guarded.ok_bind]
  exact n.guardedBook_follows m now _

theorem total_on_enqueue (n : Network) (m : Message) (now : Time) (l : Link) :
    (n.traffic.on l).total ≤ ((n.enqueue m now).2.traffic.on l).total := by
  obtain ⟨-, -, counted, -⟩ | ⟨latency, -, -, counted, -⟩ := n.enqueue_cases m now
  · rw [counted, Traffic.on_update]
    split
    · next own => rw [own]; exact Nat.le_refl _
    · exact Nat.le_refl _
  · rw [counted, Traffic.on_update]
    split
    · next own => rw [own]; exact Nat.le_add_right _ _
    · exact Nat.le_refl _

theorem LatenciesFit.before_enqueueAll {ms : List Message}
    (h : (n.enqueueAll now ms).2.LatenciesFit) : n.LatenciesFit := by
  induction ms generalizing n with
  | nil => exact h
  | cons m ms ih => exact fun l => Nat.lt_of_le_of_lt (n.total_on_enqueue m now l) (ih h l)

theorem tracked_enqueue (h : n.conditions.AllTracked) (m : Message) (now : Time) :
    (n.enqueue m now).2.conditions.AllTracked := by
  have fate := h.sampleFate n.cuts m.link
  rw [enqueue_eq]
  revert fate
  obtain ⟨_ | latency, conditions⟩ := n.conditions.sampleFate n.cuts m.link
  · exact id
  · exact id

theorem tracked_enqueueAll (h : n.conditions.AllTracked) (now : Time)
    (ms : List Message) : (n.enqueueAll now ms).2.conditions.AllTracked := by
  induction ms generalizing n with
  | nil => exact h
  | cons m ms ih => exact ih (tracked_enqueue h m now)

theorem guardedEnqueueAll_follows (h : n.conditions.AllTracked) (now : Time) (ms : List Message) :
    Follows (·.2.LatenciesFit) (n.guardedEnqueueAll now ms) (.ok (n.enqueueAll now ms)) := by
  induction ms generalizing n with
  | nil => exact .of_lift _ (.ok ([], n))
  | cons m ms ih =>
    have first : Follows (·.2.LatenciesFit) (n.guardedEnqueue m now) (.ok (n.enqueue m now)) :=
      guardedEnqueue_follows h
    refine first.bind (f := fun r =>
      .ok (r.1 :: (r.2.enqueueAll now ms).1, (r.2.enqueueAll now ms).2)) (fun r hr => ?_)
      fun r b _ hb fits => ?_
    · cases hr
      refine (ih (tracked_enqueue h m now)).bind (f := fun q => .ok (_ :: q.1, q.2))
        (fun q _ => .of_lift _ (.ok (_ :: q.1, q.2))) fun q b _ hb fits => ?_
      cases hb
      exact fits
    · cases hb
      exact LatenciesFit.before_enqueueAll fits

end Network

namespace Metrics

structure BytesFit (m : Metrics) : Prop where
  sent : m.bytesSent < UInt64.size
  received : m.bytesReceived < UInt64.size

/-- `k` comes after `m`: bytes are never taken off. -/
structure Grows (m k : Metrics) : Prop where
  sent : m.bytesSent ≤ k.bytesSent
  received : m.bytesReceived ≤ k.bytesReceived

variable {m k l : Metrics}

theorem Grows.of_mail (h : k.mail = m.mail) : m.Grows k :=
  ⟨Nat.le_of_eq (congrFun h .bytesSent).symm, Nat.le_of_eq (congrFun h .bytesReceived).symm⟩

theorem Grows.trans (h : m.Grows k) (h' : k.Grows l) : m.Grows l :=
  ⟨Nat.le_trans h.sent h'.sent, Nat.le_trans h.received h'.received⟩

theorem BytesFit.before (h : k.BytesFit) (grown : m.Grows k) : m.BytesFit :=
  ⟨Nat.lt_of_le_of_lt grown.sent h.sent, Nat.lt_of_le_of_lt grown.received h.received⟩

def guardedReceive (m : Metrics) (payload : Payload) : Guarded Metrics := do
  let bytesReceived ← bounded .byteSum (m.bytesReceived + payload.length)
  return { m.receive payload with bytesReceived }

def guardedSend (m : Metrics) (messages : List Outgoing) : Guarded Metrics := do
  let bytesSent ← bounded .byteSum (m.bytesSent + Outgoing.bytes messages)
  return { m.send messages with bytesSent }

theorem guardedReceive_follows (m : Metrics) (payload : Payload) :
    Follows BytesFit (m.guardedReceive payload) (.ok (m.receive payload)) := by
  refine Follows.bounded_bind (.of_lift _ (.ok (m.receive payload))) fun a ha fits => ?_
  cases ha
  exact fits.received

theorem guardedSend_follows (m : Metrics) (messages : List Outgoing) :
    Follows BytesFit (m.guardedSend messages) (.ok (m.send messages)) := by
  refine Follows.bounded_bind (.of_lift _ (.ok (m.send messages))) fun a ha fits => ?_
  cases ha
  exact fits.sent

end Metrics

end MeshNet
