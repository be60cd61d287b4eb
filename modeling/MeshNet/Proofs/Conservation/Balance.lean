import MeshNet.Mesh
import MeshNet.Proofs.Conservation.Sum
import MeshNet.Proofs.Network.Offer

namespace MeshNet

namespace LinkStats

structure Additive (μ : LinkStats → Nat) : Prop where
  empty : μ {} = 0
  merge : ∀ s t : LinkStats, μ (s.merge t) = μ s + μ t

theorem additive_delivered : Additive LinkStats.delivered := ⟨rfl, fun _ _ => rfl⟩

theorem additive_dropped : Additive LinkStats.dropped := ⟨rfl, fun _ _ => rfl⟩

end LinkStats

namespace Traffic

variable {μ : LinkStats → Nat}

theorem total_eq (hμ : LinkStats.Additive μ) (t : Traffic) : μ t.total = MapSum.sum μ t.stats := by
  have h (ss : List LinkStats) (s : LinkStats) : μ (ss.foldl .merge s) = μ s + (ss.map μ).sum := by
    induction ss generalizing s with
    | nil => rfl
    | cons r ss ih =>
      rw [List.foldl_cons, ih, hμ.merge, List.map_cons, List.sum_cons, Nat.add_assoc]
  rw [total, h, hμ.empty, Nat.zero_add]
  rfl

theorem total_update (hμ : LinkStats.Additive μ) (t : Traffic) (l : Link)
    (f : LinkStats → LinkStats) :
    μ (t.update l f).total + μ (t.on l) = μ t.total + μ (f (t.on l)) := by
  have hi := MapSum.sum_insert μ t.stats l (f (t.on l))
  have ho : μ (t.on l) = (t.stats[l]?.map μ).getD 0 := by
    rw [on]
    cases t.stats[l]? with
    | none => exact hμ.empty
    | some s => rfl
  rw [total_eq hμ, total_eq hμ, ho]
  exact hi

end Traffic

namespace Network

structure Balance (n n' : Network) (offered arrived : Nat) : Prop where
  delivered : n'.traffic.total.delivered + n.inFlight.size =
    n.traffic.total.delivered + n'.inFlight.size + arrived
  offered : n'.traffic.total.delivered + n'.traffic.total.dropped =
    n.traffic.total.delivered + n.traffic.total.dropped + offered

namespace Balance

theorem of_frame {n n' : Network} (h : n'.inFlight = n.inFlight ∧ n'.traffic = n.traffic) :
    Balance n n' 0 0 := by
  obtain ⟨hq, ht⟩ := h
  constructor
  · rw [hq, ht]
    rfl
  · rw [ht]
    rfl

theorem trans {n n' n'' : Network} {o o' a a' : Nat} (h : Balance n n' o a)
    (h' : Balance n' n'' o' a') : Balance n n'' (o + o') (a + a') := by
  obtain ⟨hd, ho⟩ := h
  obtain ⟨hd', ho'⟩ := h'
  constructor
  · omega
  · omega

theorem of_fresh {conditions : Conditions} {n : Network} {o a : Nat}
    (h : Balance { conditions } n o a) :
    n.traffic.total.delivered = a + n.inFlight.size ∧
      n.traffic.total.delivered + n.traffic.total.dropped = o := by
  obtain ⟨hd, ho⟩ := h
  have delivered : ({ conditions } : Network).traffic.total.delivered = 0 := rfl
  have dropped : ({ conditions } : Network).traffic.total.dropped = 0 := rfl
  have size : ({ conditions } : Network).inFlight.size = 0 := rfl
  constructor
  · omega
  · omega

end Balance

theorem enqueue_balance (n : Network) (m : Message) (now : Time) :
    Balance n (n.enqueue m now).2 1 0 := by
  have dropped := n.traffic.total_update LinkStats.additive_dropped m.link
  have delivered := n.traffic.total_update LinkStats.additive_delivered m.link
  obtain ⟨-, hq, ht, -⟩ | ⟨latency, -, hq, ht, -⟩ := n.enqueue_cases m now
  · have hd := dropped .drop
    have ha := delivered .drop
    rw [LinkStats.dropped_drop] at hd
    rw [LinkStats.delivered_drop] at ha
    constructor
    · rw [hq, ht]
      omega
    · rw [ht]
      omega
  · have hd := dropped (·.record latency)
    have ha := delivered (·.record latency)
    rw [LinkStats.dropped_record] at hd
    rw [LinkStats.delivered_record] at ha
    constructor
    · rw [hq, ht, Timeline.size_insert]
      omega
    · rw [ht]
      omega

theorem enqueueAll_balance (now : Time) (ms : List Message) (n : Network) :
    Balance n (enqueueAll now ms n).2 ms.length 0 := by
  induction ms generalizing n with
  | nil => exact .of_frame ⟨rfl, rfl⟩
  | cons m ms ih =>
    rw [List.length_cons, Nat.add_comm]
    exact (n.enqueue_balance m now).trans (ih _)

theorem drain_balance (n : Network) (now : Time) :
    Balance n (n.drain now).2 0 (n.drain now).1.length := by
  have hl := congrArg List.length (n.inFlight.ready_append_after now)
  rw [List.length_append] at hl
  constructor
  · simp only [drain, List.length_map, Timeline.size]
    omega
  · rfl

def taken (offered : List (Message × Option Time)) : List (Time × Message) :=
  offered.filterMap fun o => o.2.map (·, o.1)

theorem length_enqueueAll (now : Time) (ms : List Message) (n : Network) :
    (enqueueAll now ms n).1.length = ms.length := by
  induction ms generalizing n with
  | nil => rfl
  | cons m ms ih => exact congrArg (· + 1) (ih _)

theorem inFlight_enqueueAll (now : Time) (ms : List Message) (n : Network) :
    (enqueueAll now ms n).2.inFlight =
      (taken (ms.zip (enqueueAll now ms n).1)).foldl (fun q e => q.insert e.1 e.2) n.inFlight := by
  induction ms generalizing n with
  | nil => rfl
  | cons m ms ih =>
    have hs := ih (n.enqueue m now).2
    obtain ⟨ht, hq, -⟩ | ⟨latency, ht, hq, -⟩ := n.enqueue_cases m now
    · rw [hq] at hs
      simp only [enqueueAll, List.zip_cons_cons, ht]
      exact hs
    · rw [hq] at hs
      simp only [enqueueAll, List.zip_cons_cons, ht]
      exact hs

theorem length_taken {ms : List Message} {times : List (Option Time)}
    (h : times.length = ms.length) : (taken (ms.zip times)).length = times.countP Option.isSome := by
  induction times generalizing ms with
  | nil =>
    rw [taken, List.zip_nil_right]
    rfl
  | cons time times ih =>
    cases ms with
    | nil => cases h
    | cons m ms =>
      have hl := ih (Nat.succ.inj h)
      cases time with
      | none =>
        rw [List.countP_cons_of_neg Bool.false_ne_true, ← hl]
        rfl
      | some time =>
        rw [List.countP_cons_of_pos rfl, ← hl]
        rfl

end Network

end MeshNet
