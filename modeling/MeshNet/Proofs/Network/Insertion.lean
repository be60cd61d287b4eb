import MeshNet.Proofs.Conservation.Sum
import MeshNet.Proofs.Loss.Tracking
import MeshNet.Proofs.Network.Delivery
import MeshNet.Proofs.Random.Probability

namespace MeshNet

namespace Timeline

variable {α : Type}

def without (q : Timeline α) (numbers : List Nat) : List (Time × α) :=
  (q.queue.filter (·.number ∉ numbers)).map (·.entry)

variable (q : Timeline α) (numbers : List Nat)

theorem without_nil : q.without [] = q.queue.map (·.entry) := by
  simp [without]

theorem without_ready (now : Time) :
    ((q.ready now).filter (·.number ∉ numbers)).map (·.entry) =
      (q.without numbers).filter (·.1 ≤ now) := by
  rw [ready_eq_filter, List.filter_comm, without, List.filter_map]
  rfl

theorem without_after (now : Time) :
    (q.after now).without numbers = (q.without numbers).filter (now < ·.1) := by
  rw [without, queue_after_eq_filter, List.filter_comm, without, List.filter_map]
  rfl

variable {q numbers}

theorem without_insert (fresh : q.arrivals ∉ numbers) (t : Time) (a : α) :
    (q.insert t a).without numbers =
      (q.without numbers).filter (·.1 ≤ t) ++ (t, a) :: (q.without numbers).filter (t < ·.1) := by
  rw [without, queue_insert, List.filter_append, List.filter_cons_of_pos (by simpa using fresh),
    List.map_append, List.map_cons, without_ready, ← without_after]
  rfl

theorem without_insert_arrivals (t : Time) (a : α) :
    (q.insert t a).without (numbers ++ [q.arrivals]) = q.without numbers := by
  have older : ∀ w ∈ q.queue,
      decide (w.number ∉ numbers ++ [q.arrivals]) = decide (w.number ∉ numbers) := by
    intro w hw
    have distinct := Nat.ne_of_lt (q.numbered w hw)
    simp [distinct]
  rw [without, queue_insert, List.filter_append, List.filter_cons_of_neg (by simp),
    ← List.filter_append, ready_append_after, List.filter_congr older, without]

end Timeline

namespace Conditions

theorem sampleLoss_of_lossless {c : Conditions} {l : Link} (tracked : c.Tracked l)
    (lossless : ¬ 0.0 < (c.lossFor l).val.probability) : c.sampleLoss l = (false, c) := by
  -- Tracking rules out a burst that an earlier loss model has left behind.
  have idle : c.bursts[l]? = none := by
    cases hb : c.bursts[l]? with
    | none => rfl
    | some left => exact absurd (tracked left hb).2.2.1 lossless
  have nothing : c.draw (c.lossFor l).val.begins = (false, c) := by
    rw [LossModel.begins, if_neg lossless]
    rfl
  rw [sampleLoss, nothing]
  split
  · rw [idle]
    rfl
  · change (false, { c with bursts := c.bursts.erase l }) = _
    rw [MapSum.erase_of_none idle]

theorem sampleLatency_of_fixed {c : Conditions} {l : Link}
    (fixed : (c.latencyFor l).val.min = (c.latencyFor l).val.max) :
    c.sampleLatency l = ((c.latencyFor l).val.min, c) := by
  rw [sampleLatency, LatencyModel.sample_of_le (fixed ▸ UInt32.le_refl _)]
  rfl

theorem tracked_sampleDrop {c : Conditions} {l : Link} (h : c.Tracked l) (cuts : Cuts) (k : Link) :
    (c.sampleDrop cuts k).2.Tracked l := by
  rw [sampleDrop]
  split
  · exact tracked_step h (.sampleLoss k)
  · exact h

theorem tracked_sampleFate {c : Conditions} {l : Link} (h : c.Tracked l) (cuts : Cuts) (k : Link) :
    (c.sampleFate cuts k).2.Tracked l := by
  have kept := tracked_sampleDrop h cuts k
  rw [sampleFate]
  cases hd : c.sampleDrop cuts k with
  | mk dropped d =>
    rw [hd] at kept
    cases dropped with
    | true => exact kept
    | false => exact tracked_step kept (.sampleLatency k)

end Conditions

namespace Network

theorem conditions_book (n : Network) (m : Message) (now : Time)
    (fate : Option UInt32 × Conditions) : (n.book m now fate).2.conditions = fate.2 := by
  obtain ⟨_ | latency, conditions⟩ := fate <;> rfl

theorem tracked_step {n : Network} {l : Link} (h : n.conditions.Tracked l) (op : NetworkOp) :
    (n.step op).2.conditions.Tracked l := by
  cases op with
  | enqueue m now =>
    rw [step, enqueue_eq, conditions_book]
    exact Conditions.tracked_sampleFate h n.cuts m.link
  | drops k =>
    rw [step, drops_eq]
    exact Conditions.tracked_sampleDrop h n.cuts k
  | configure s =>
    have kept := Conditions.tracked_step h (.configure s)
    rw [Conditions.step] at kept
    rw [step, configure, reconfigure]
    cases hs : s.apply n.conditions with
    | error error => exact h
    | ok c =>
      rw [hs] at kept
      exact kept
  | drain now | clear | cut k | mend k | mendAll | resetTraffic => exact h

def Settled (n : Network) (l : Link) : Prop :=
  n.cuts.active l = false ∨ ((n.conditions.lossFor l).val.probability == 0.0) = true ∧
    (n.conditions.latencyFor l).val.min = (n.conditions.latencyFor l).val.max

instance (n : Network) (l : Link) : Decidable (n.Settled l) := inferInstanceAs (Decidable (_ ∨ _))

theorem sampleDrop_of_settled {n : Network} {l : Link} (tracked : n.conditions.Tracked l)
    (settled : n.Settled l) : (n.conditions.sampleDrop n.cuts l).2 = n.conditions := by
  rw [Conditions.sampleDrop]
  split
  · next active =>
    rcases settled with cut | ⟨lossless, -⟩
    · rw [active] at cut
      cases cut
    · rw [Conditions.sampleLoss_of_lossless tracked (Random.not_lt_of_beq lossless)]
  · rfl

theorem sampleFate_of_settled {n : Network} {l : Link} (tracked : n.conditions.Tracked l)
    (settled : n.Settled l) : (n.conditions.sampleFate n.cuts l).2 = n.conditions := by
  have kept := sampleDrop_of_settled tracked settled
  rw [Conditions.sampleFate]
  cases hd : n.conditions.sampleDrop n.cuts l with
  | mk dropped c =>
    rw [hd] at kept
    obtain rfl : c = n.conditions := kept
    cases dropped with
    | true => rfl
    | false =>
      rcases settled with cut | ⟨-, fixed⟩
      · rw [Conditions.sampleDrop, cut] at hd
        cases hd
      · exact congrArg Prod.snd (Conditions.sampleLatency_of_fixed fixed)

end Network

inductive Insertion where
  | enqueue (m : Message) (now : Time)
  | drops (l : Link)

def Insertion.op : Insertion → NetworkOp
  | enqueue m now => .enqueue m now
  | drops l => .drops l

def Insertion.link : Insertion → Link
  | enqueue m _ => m.link
  | drops l => l

inductive RunCall where
  | own (op : NetworkOp)
  | inserted (extra : Insertion)

namespace RunCall

def op : RunCall → NetworkOp
  | own op => op
  | inserted extra => extra.op

def own? : RunCall → Option NetworkOp
  | own op => some op
  | inserted _ => none

def inserted? : RunCall → Option Link
  | own _ => none
  | inserted extra => some extra.link

end RunCall

namespace Network

def SettledInsertions : List RunCall → Network → Prop
  | [], _ => True
  | .own op :: calls, n => SettledInsertions calls (n.step op).2
  | .inserted extra :: calls, n =>
    n.Settled extra.link ∧ SettledInsertions calls (n.step extra.op).2

instance decidableSettledInsertions :
    (calls : List RunCall) → (n : Network) → Decidable (SettledInsertions calls n)
  | [], _ => inferInstanceAs (Decidable True)
  | .own op :: calls, n => decidableSettledInsertions calls (n.step op).2
  | .inserted extra :: calls, n =>
    have := decidableSettledInsertions calls (n.step extra.op).2
    inferInstanceAs (Decidable (_ ∧ _))

def admits (n : Network) (op : NetworkOp) : List Nat :=
  match (n.step op).1 with
  | .enqueued (some _) => [n.inFlight.arrivals]
  | _ => []

def insertedNumbers : List RunCall → Network → List Nat
  | [], _ => []
  | .own op :: calls, n => insertedNumbers calls (n.step op).2
  | .inserted extra :: calls, n =>
    n.admits extra.op ++ insertedNumbers calls (n.step extra.op).2

def replyWithout (n : Network) (numbers : List Nat) : NetworkOp → NetworkReply
  | .drain now => .drained (((n.inFlight.ready now).filter (·.number ∉ numbers)).map (·.entry))
  | op => (n.step op).1

/-- `full` has done what `alone` has done, and insertions on `links` besides, which have brought in
messages of these numbers. -/
structure Extends (full alone : Network) (numbers : List Nat) (links : List Link) : Prop where
  conditions : full.conditions = alone.conditions
  cuts : full.cuts = alone.cuts
  traffic : ∀ l ∉ links, full.traffic.on l = alone.traffic.on l
  waiting : full.inFlight.without numbers = alone.inFlight.without []
  numbered : ∀ k ∈ numbers, k < full.inFlight.arrivals

namespace Extends

variable {full alone : Network} {numbers : List Nat} {links : List Link}

theorem refl (n : Network) : n.Extends n [] [] where
  conditions := rfl
  cuts := rfl
  traffic _ _ := rfl
  waiting := rfl
  numbered := List.forall_mem_nil _

theorem traffic_update {s t : Traffic} (h : ∀ l ∉ links, s.on l = t.on l) (k : Link)
    (f : LinkStats → LinkStats) : ∀ l ∉ links, (s.update k f).on l = (t.update k f).on l := by
  intro l hl
  rw [Traffic.on_update, Traffic.on_update]
  split
  · next hk => rw [hk, h l hl]
  · exact h l hl

theorem booked (h : full.Extends alone numbers links) (m : Message) (now : Time)
    (fate : Option UInt32 × Conditions) :
    (alone.book m now fate).1 = (full.book m now fate).1 ∧
      (full.book m now fate).2.Extends (alone.book m now fate).2 numbers links := by
  obtain ⟨_ | latency, conditions⟩ := fate
  · exact ⟨rfl, rfl, h.cuts, traffic_update h.traffic m.link _, h.waiting, h.numbered⟩
  · have fresh : full.inFlight.arrivals ∉ numbers := fun hm => Nat.lt_irrefl _ (h.numbered _ hm)
    refine ⟨rfl, rfl, h.cuts, traffic_update h.traffic m.link _, ?_, fun k hk =>
      Nat.lt_succ_of_lt (h.numbered k hk)⟩
    rw [Network.book, Network.book, Timeline.without_insert fresh,
      Timeline.without_insert List.not_mem_nil, h.waiting]

theorem own (h : full.Extends alone numbers links) (op : NetworkOp) :
    alone.replyWithout [] op = full.replyWithout numbers op ∧
      (full.step op).2.Extends (alone.step op).2 numbers links := by
  cases op with
  | enqueue m now =>
    obtain ⟨told, extended⟩ := h.booked m now (alone.conditions.sampleFate alone.cuts m.link)
    change NetworkReply.enqueued (alone.enqueue m now).1 = .enqueued (full.enqueue m now).1 ∧
      (full.enqueue m now).2.Extends (alone.enqueue m now).2 numbers links
    rw [enqueue_eq, enqueue_eq, h.conditions, h.cuts]
    exact ⟨congrArg NetworkReply.enqueued told, extended⟩
  | drops l =>
    change NetworkReply.dropped (alone.drops l).1 = .dropped (full.drops l).1 ∧
      (full.drops l).2.Extends (alone.drops l).2 numbers links
    rw [drops_eq, drops_eq, h.conditions, h.cuts]
    exact ⟨rfl, rfl, rfl, h.traffic, h.waiting, h.numbered⟩
  | configure s =>
    change NetworkReply.configured (alone.configure s).1 = .configured (full.configure s).1 ∧
      (full.configure s).2.Extends (alone.configure s).2 numbers links
    rw [configure, configure, reconfigure, reconfigure, h.conditions]
    cases s.apply alone.conditions with
    | error error => exact ⟨rfl, h⟩
    | ok c => exact ⟨rfl, rfl, h.cuts, h.traffic, h.waiting, h.numbered⟩
  | drain now =>
    rw [replyWithout, replyWithout, Timeline.without_ready, Timeline.without_ready, h.waiting]
    refine ⟨rfl, h.conditions, h.cuts, h.traffic, ?_, h.numbered⟩
    rw [step, step, drain, drain, Timeline.without_after, Timeline.without_after, h.waiting]
  | clear => exact ⟨rfl, h.conditions, h.cuts, h.traffic, rfl, h.numbered⟩
  | cut l => exact ⟨rfl, h.conditions, congrArg (·.cut l) h.cuts, h.traffic, h.waiting, h.numbered⟩
  | mend l =>
    exact ⟨rfl, h.conditions, congrArg (·.mend l) h.cuts, h.traffic, h.waiting, h.numbered⟩
  | mendAll => exact ⟨rfl, h.conditions, rfl, h.traffic, h.waiting, h.numbered⟩
  | resetTraffic => exact ⟨rfl, h.conditions, h.cuts, fun _ _ => rfl, h.waiting, h.numbered⟩

theorem traffic_concat (h : full.Extends alone numbers links) (k : Link) :
    ∀ l ∉ links ++ [k], k ≠ l ∧ full.traffic.on l = alone.traffic.on l := by
  intro l hl
  rw [List.mem_append, List.mem_singleton, not_or] at hl
  exact ⟨Ne.symm hl.2, h.traffic l hl.1⟩

theorem offered (h : full.Extends alone numbers links) {m : Message}
    (tracked : full.conditions.Tracked m.link) (settled : full.Settled m.link) (now : Time) :
    (full.enqueue m now).2.Extends alone (numbers ++ full.admits (.enqueue m now))
      (links ++ [m.link]) := by
  have kept := sampleFate_of_settled tracked settled
  have traffic (f : LinkStats → LinkStats) : ∀ l ∉ links ++ [m.link],
      (full.traffic.update m.link f).on l = alone.traffic.on l := by
    intro l hl
    obtain ⟨other, agreed⟩ := h.traffic_concat m.link l hl
    rw [Traffic.on_update, if_neg other, agreed]
  rw [admits, step, enqueue_eq]
  cases hf : full.conditions.sampleFate full.cuts m.link with
  | mk fate c =>
    rw [hf] at kept
    obtain rfl : c = full.conditions := kept
    cases fate with
    | none =>
      rw [book, List.append_nil]
      exact ⟨h.conditions, h.cuts, traffic _, h.waiting, h.numbered⟩
    | some latency =>
      refine ⟨h.conditions, h.cuts, traffic _, ?_, fun k hk => ?_⟩
      · exact (Timeline.without_insert_arrivals _ m).trans h.waiting
      · rcases List.mem_append.1 hk with hk | hk
        · exact Nat.lt_succ_of_lt (h.numbered k hk)
        · rw [List.mem_singleton.1 hk]
          exact Nat.lt_succ_self _

theorem inserted (h : full.Extends alone numbers links) {extra : Insertion}
    (tracked : full.conditions.Tracked extra.link) (settled : full.Settled extra.link) :
    (full.step extra.op).2.Extends alone (numbers ++ full.admits extra.op)
      (links ++ [extra.link]) := by
  cases extra with
  | enqueue m now => exact h.offered tracked settled now
  | drops l =>
    have kept := sampleDrop_of_settled tracked settled
    rw [Insertion.op, admits, step, drops_eq, List.append_nil]
    exact ⟨kept.trans h.conditions, h.cuts, fun k hk => (h.traffic_concat l k hk).2, h.waiting,
      h.numbered⟩

theorem run {calls : List RunCall} (h : full.Extends alone numbers links)
    (tracked : ∀ l, full.conditions.Tracked l) (settled : SettledInsertions calls full) :
    (steps (calls.map (·.op)) full).2.Extends (steps (calls.filterMap (·.own?)) alone).2
      (numbers ++ insertedNumbers calls full) (links ++ calls.filterMap (·.inserted?)) := by
  induction calls generalizing full alone numbers links with
  | nil => simpa [steps, insertedNumbers] using h
  | cons call calls ih =>
    cases call with
    | own op => exact ih (h.own op).2 (fun l => tracked_step (tracked l) op) settled
    | inserted extra =>
      -- The run without insertions stands still here, and the numbers and links grow.
      have next := ih (h.inserted (tracked _) settled.1) (fun l => tracked_step (tracked l) extra.op)
        settled.2
      rw [List.append_assoc, List.append_assoc] at next
      exact next

end Extends

theorem settledInsertions_of_append {before rest : List RunCall} {n : Network}
    (h : SettledInsertions (before ++ rest) n) : SettledInsertions before n := by
  induction before generalizing n with
  | nil => trivial
  | cons call before ih =>
    cases call with
    | own op => exact ih (n := (n.step op).2) h
    | inserted extra => exact ⟨h.1, ih h.2⟩

theorem replyWithout_nil (n : Network) (op : NetworkOp) : n.replyWithout [] op = (n.step op).1 := by
  cases op with
  | drain now => simp [replyWithout, step, drain]
  | enqueue m now | clear | drops l | configure s | cut l | mend l | mendAll | resetTraffic => rfl

theorem settled_insertions_disturb_nobody (source : Random.Source) {calls : List RunCall}
    (settled : SettledInsertions calls (ofSource source)) :
    (∀ before op after, calls = before ++ .own op :: after →
      ((steps (before.filterMap (·.own?)) (ofSource source)).2.step op).1 =
        (steps (before.map (·.op)) (ofSource source)).2.replyWithout
          (insertedNumbers before (ofSource source)) op) ∧
    let full := (steps (calls.map (·.op)) (ofSource source)).2
    let alone := (steps (calls.filterMap (·.own?)) (ofSource source)).2
    full.conditions = alone.conditions ∧ full.cuts = alone.cuts ∧
      full.inFlight.without (insertedNumbers calls (ofSource source)) =
        alone.inFlight.queue.map (·.entry) ∧
      ∀ l ∉ calls.filterMap (·.inserted?), full.traffic.on l = alone.traffic.on l := by
  have tracked : ∀ l, (ofSource source).conditions.Tracked l := fun l =>
    Conditions.tracked_of_bursts rfl
  have run {calls : List RunCall} (settled : SettledInsertions calls (ofSource source)) :=
    (Extends.refl (ofSource source)).run tracked settled
  refine ⟨fun before op after hc => ?_, ?_⟩
  · rw [hc] at settled
    rw [← replyWithout_nil]
    exact ((run (settledInsertions_of_append settled)).own op).1
  · obtain ⟨conditions, cuts, traffic, waiting, -⟩ := run settled
    exact ⟨conditions, cuts, waiting.trans (Timeline.without_nil _), traffic⟩

theorem settled_insertions_disturb_nobody_cut_and_fixed :
    let j : Link := ⟨⟨1⟩, ⟨3⟩⟩
    let k : Link := ⟨⟨2⟩, ⟨1⟩⟩
    let l : Link := ⟨⟨1⟩, ⟨2⟩⟩
    let start := ofSource (.seeded 3)
    let before : List RunCall :=
      [.own (.configure (.defaultLoss { probability := 0.5 })), .own (.configure (.loss k {})),
        .own (.configure (.latency k (.fixed 30))), .own (.cut j), .inserted (.enqueue ⟨j, [9]⟩ 0),
        .own (.enqueue ⟨l, [7]⟩ 0), .inserted (.enqueue ⟨k, [8]⟩ 0), .inserted (.drops k),
        .own (.enqueue ⟨l, [6]⟩ 0), .own (.enqueue ⟨l, [5]⟩ 0)]
    let full := (steps (before.map (·.op)) start).2
    let alone := (steps (before.filterMap (·.own?)) start).2
    SettledInsertions (before ++ [.own (.drain 60)]) start ∧
      (full.step (.drain 60)).1 =
        .drained [(30, ⟨k, [8]⟩), (33, ⟨l, [5]⟩), (36, ⟨l, [6]⟩)] ∧
      (alone.step (.drain 60)).1 = .drained [(33, ⟨l, [5]⟩), (36, ⟨l, [6]⟩)] := by
  intro j k l start before full alone
  have settled : SettledInsertions (before ++ [.own (.drain 60)]) start := by
    decide +kernel
  have told : (full.step (.drain 60)).1 =
      .drained [(30, ⟨k, [8]⟩), (33, ⟨l, [5]⟩), (36, ⟨l, [6]⟩)] := by
    decide +kernel
  refine ⟨settled, told, ?_⟩
  rw [(settled_insertions_disturb_nobody (.seeded 3) settled).1 before (.drain 60) [] rfl]
  decide +kernel

end Network

end MeshNet
