import MeshNet.Proofs.Network.Latency
import MeshNet.Proofs.Network.Insertion

namespace MeshNet

def entriesOn (l : Link) (entries : List (Time × Message)) : List (Time × Message) :=
  entries.filter (·.2.link = l)

theorem entriesOn_append (l : Link) (before after : List (Time × Message)) :
    entriesOn l (before ++ after) = entriesOn l before ++ entriesOn l after := List.filter_append ..

theorem mem_entriesOn {l : Link} {entries : List (Time × Message)} {e : Time × Message} :
    e ∈ entriesOn l entries ↔ e ∈ entries ∧ e.2.link = l := by
  simp [entriesOn]

theorem Time.advance_le_advance {t u : Time} (h : t ≤ u) (d : UInt64) :
    Time.advance t d ≤ Time.advance u d := by
  rw [UInt64.le_iff_toNat_le] at h ⊢
  rw [toNat_advance, toNat_advance]
  omega

namespace Timeline

variable (q : Timeline Message) (l : Link)

def waitingOn : List (Time × Message) := entriesOn l (q.queue.map (·.entry))

theorem ready_append_waitingOn_after (t : Time) :
    entriesOn l ((q.ready t).map (·.entry)) ++ (q.after t).waitingOn l = q.waitingOn l := by
  rw [waitingOn, waitingOn, ← entriesOn_append, ← List.map_append, ready_append_after]

theorem waitingOn_insert_eq (t : Time) (m : Message) :
    (q.insert t m).waitingOn l =
      entriesOn l ((q.ready t).map (·.entry)) ++ (entriesOn l [(t, m)] ++ (q.after t).waitingOn l) := by
  have entries : (q.insert t m).queue.map (·.entry) =
      (q.ready t).map (·.entry) ++ ([(t, m)] ++ (q.after t).queue.map (·.entry)) := by
    rw [queue_insert, List.map_append, List.map_cons]
    rfl
  rw [waitingOn, entries, entriesOn_append, entriesOn_append]
  rfl

variable {q l}

theorem lt_of_mem_after {t : Time} {e : Time × Message} (h : e ∈ (q.after t).waitingOn l) :
    t < e.1 := by
  obtain ⟨he, -⟩ := mem_entriesOn.1 h
  obtain ⟨w, hw, rfl⟩ := List.mem_map.1 he
  rw [queue_after_eq_filter, List.mem_filter] at hw
  exact of_decide_eq_true hw.2

theorem waitingOn_insert {t : Time} {m : Message} (last : m.link = l → ∀ e ∈ q.waitingOn l, e.1 ≤ t) :
    (q.insert t m).waitingOn l = q.waitingOn l ++ entriesOn l [(t, m)] := by
  have split := q.ready_append_waitingOn_after l t
  rw [waitingOn_insert_eq]
  by_cases own : m.link = l
  · have behind : (q.after t).waitingOn l = [] := by
      refine List.eq_nil_iff_forall_not_mem.2 fun e he => ?_
      have waits : e ∈ q.waitingOn l := split ▸ List.mem_append_right _ he
      exact absurd (last own e waits) (UInt64.not_le.2 (lt_of_mem_after he))
    rw [behind, List.append_nil] at split ⊢
    rw [split]
  · have foreign : entriesOn l [(t, m)] = [] := by
      simp [entriesOn, own]
    rw [foreign, List.nil_append, List.append_nil, split]

end Timeline

def NetworkOp.offers (l : Link) : NetworkOp → List Time
  | enqueue m now => if m.link = l then [now] else []
  | drain _ | clear | drops _ | configure _ | cut _ | mend _ | mendAll | resetTraffic => []

namespace Network

def FixedAt (n : Network) (l : Link) (latency : UInt32) : Prop :=
  (n.conditions.latencyFor l).val.min = latency ∧ (n.conditions.latencyFor l).val.max = latency

instance (n : Network) (l : Link) (latency : UInt32) : Decidable (n.FixedAt l latency) :=
  inferInstanceAs (Decidable (_ ∧ _))

def OffersAtLatency (l : Link) (latency : UInt32) : List NetworkOp → Network → Prop
  | [], _ => True
  | op :: ops, n =>
    (op.offers l ≠ [] → n.FixedAt l latency) ∧ OffersAtLatency l latency ops (n.step op).2

instance decidableOffersAtLatency (l : Link) (latency : UInt32) :
    (ops : List NetworkOp) → (n : Network) → Decidable (OffersAtLatency l latency ops n)
  | [], _ => inferInstanceAs (Decidable True)
  | op :: ops, n =>
    have := decidableOffersAtLatency l latency ops (n.step op).2
    inferInstanceAs (Decidable (_ ∧ _))

/-- No message on `l` waits for longer than those that are offered at these times will. -/
def KeepsUp (n : Network) (l : Link) (latency : UInt32) (offers : List Time) : Prop :=
  ∀ e ∈ n.inFlight.waitingOn l, ∀ now ∈ offers, e.1 ≤ now.advance latency.toUInt64

variable {n : Network} {l : Link} {latency : UInt32}

theorem enqueue_of_fixed {m : Message} {now time : Time}
    (fixed : n.FixedAt m.link latency)
    (admitted : (n.enqueue m now).1 = some time) : time = now.advance latency.toUInt64 := by
  obtain ⟨dropped, -⟩ | ⟨sampled, told, -, -, fate⟩ := n.enqueue_cases m now
  · cases dropped.symm.trans admitted
  · have drawn := Conditions.sampleFate_eq_some fate
    rw [LatencyModel.sample_of_le (by rw [fixed.1, fixed.2]; exact UInt32.le_refl _)] at drawn
    obtain rfl : sampled = latency := drawn.trans fixed.1
    exact Option.some.inj (admitted.symm.trans told)

theorem inFlight_enqueue_of_admitted {m : Message} {now time : Time}
    (admitted : (n.enqueue m now).1 = some time) :
    (n.enqueue m now).2.inFlight = n.inFlight.insert time m := by
  obtain ⟨dropped, -⟩ | ⟨sampled, told, waits, -⟩ := n.enqueue_cases m now
  · cases dropped.symm.trans admitted
  · rw [Option.some.inj (admitted.symm.trans told), waits]

theorem inFlight_enqueue_of_dropped {m : Message} {now : Time}
    (dropped : (n.enqueue m now).1 = none) : (n.enqueue m now).2.inFlight = n.inFlight := by
  obtain ⟨-, same, -⟩ | ⟨sampled, told, -⟩ := n.enqueue_cases m now
  · exact same
  · cases dropped.symm.trans told

theorem waitingOn_step {op : NetworkOp} (fixed : op.offers l ≠ [] → n.FixedAt l latency)
    (keeps : op ≠ .clear) (up : n.KeepsUp l latency (op.offers l)) :
    entriesOn l (n.step op).1.messages ++ (n.step op).2.inFlight.waitingOn l =
      n.inFlight.waitingOn l ++ entriesOn l (Post.admitted? (op, (n.step op).1)).toList := by
  cases op with
  | enqueue m now =>
    rw [step, NetworkReply.messages, Post.admitted?]
    cases told : (n.enqueue m now).1 with
    | none =>
      rw [inFlight_enqueue_of_dropped told]
      exact (List.append_nil _).symm
    | some time =>
      rw [inFlight_enqueue_of_admitted told]
      refine Timeline.waitingOn_insert fun own e he => ?_
      have offered : (NetworkOp.enqueue m now).offers l = [now] := if_pos own
      rw [offered] at fixed up
      subst own
      rw [enqueue_of_fixed (fixed (List.cons_ne_nil _ _)) told]
      exact up e he now (List.mem_singleton_self now)
  | drain now =>
    rw [step, drain, NetworkReply.messages, Timeline.ready_append_waitingOn_after]
    exact (List.append_nil _).symm
  | clear => exact absurd rfl keeps
  | drops k =>
    rw [step, (n.drops_frame k).1]
    exact (List.append_nil _).symm
  | configure s =>
    rw [step, (n.configure_frame s).1]
    exact (List.append_nil _).symm
  | cut k | mend k | mendAll | resetTraffic => exact (List.append_nil _).symm

theorem offered_of_admitted {op : NetworkOp} {e : Time × Message}
    (admitted : e ∈ entriesOn l (Post.admitted? (op, (n.step op).1)).toList)
    (fixed : op.offers l ≠ [] → n.FixedAt l latency) :
    ∃ now ∈ op.offers l, e.1 = now.advance latency.toUInt64 := by
  obtain ⟨he, own⟩ := mem_entriesOn.1 admitted
  rw [Option.mem_toList] at he
  cases op with
  | enqueue m now =>
    obtain ⟨time, told, rfl⟩ := Option.map_eq_some_iff.1 he
    have offered : (NetworkOp.enqueue m now).offers l = [now] := if_pos own
    rw [offered] at fixed ⊢
    subst own
    exact ⟨now, List.mem_singleton_self now,
      enqueue_of_fixed (fixed (List.cons_ne_nil _ _)) told⟩
  | drain now | clear | drops k | configure s | cut k | mend k | mendAll | resetTraffic => cases he

theorem keepsUp_step {op : NetworkOp} {offers : List Time}
    (fixed : op.offers l ≠ [] → n.FixedAt l latency) (keeps : op ≠ .clear)
    (ordered : (op.offers l ++ offers).Pairwise (· ≤ ·))
    (up : n.KeepsUp l latency (op.offers l ++ offers)) :
    (n.step op).2.KeepsUp l latency offers := by
  have present : n.KeepsUp l latency (op.offers l) := fun e he now hn =>
    up e he now (List.mem_append_left _ hn)
  intro e he now hn
  have waits := List.mem_append_right (entriesOn l (n.step op).1.messages) he
  rw [waitingOn_step fixed keeps present, List.mem_append] at waits
  rcases waits with earlier | admitted
  · exact up e earlier now (List.mem_append_right _ hn)
  · obtain ⟨t, ht, time⟩ := offered_of_admitted admitted fixed
    rw [time]
    exact Time.advance_le_advance ((List.pairwise_append.1 ordered).2.2 t ht now hn) _

theorem waitingOn_steps {ops : List NetworkOp} (fixed : OffersAtLatency l latency ops n)
    (keeps : ∀ op ∈ ops, op ≠ .clear) (ordered : (ops.flatMap (·.offers l)).Pairwise (· ≤ ·))
    (up : n.KeepsUp l latency (ops.flatMap (·.offers l))) :
    entriesOn l ((steps ops n).1.flatMap (·.messages)) ++
        (steps ops n).2.inFlight.waitingOn l =
      n.inFlight.waitingOn l ++
        entriesOn l ((ops.zip (steps ops n).1).filterMap Post.admitted?) := by
  induction ops generalizing n with
  | nil => exact (List.append_nil _).symm
  | cons op ops ih =>
    rw [List.forall_mem_cons] at keeps
    rw [List.flatMap_cons] at ordered up
    have present : n.KeepsUp l latency (op.offers l) := fun e he now hn =>
      up e he now (List.mem_append_left _ hn)
    have first := waitingOn_step fixed.1 keeps.1 present
    have rest := ih fixed.2 keeps.2 (List.pairwise_append.1 ordered).2.1
      (keepsUp_step fixed.1 keeps.1 ordered up)
    rw [steps, List.flatMap_cons, entriesOn_append, List.append_assoc, rest, List.zip_cons_cons,
      Post.filterMap_admitted?_cons, entriesOn_append, ← List.append_assoc, first,
      List.append_assoc]

theorem fixed_latency_keeps_order {n : Network} {l : Link} {latency : UInt32}
    {ops : List NetworkOp} (idle : n.inFlight.waitingOn l = [])
    (fixed : OffersAtLatency l latency ops n) (keeps : ∀ op ∈ ops, op ≠ .clear)
    (ordered : (ops.flatMap (·.offers l)).Pairwise (· ≤ ·)) :
    let replies := (steps ops n).1
    let drained := entriesOn l (replies.flatMap (·.messages))
    let admitted := entriesOn l ((ops.zip replies).filterMap Post.admitted?)
    drained <+: admitted ∧ drained ++ (steps ops n).2.inFlight.waitingOn l = admitted := by
  intro replies drained admitted
  have all : drained ++ (steps ops n).2.inFlight.waitingOn l = admitted := by
    have up : n.KeepsUp l latency (ops.flatMap (·.offers l)) := by
      intro e he
      rw [idle] at he
      cases he
    have run := waitingOn_steps fixed keeps ordered up
    rwa [idle, List.nil_append] at run
  exact ⟨⟨_, all⟩, all⟩

theorem fixed_latency_keeps_order_at_end_of_time :
    let k : Link := ⟨⟨2⟩, ⟨1⟩⟩
    let l : Link := ⟨⟨1⟩, ⟨2⟩⟩
    let start := ofSource (.seeded 4)
    let ops : List NetworkOp :=
      [.configure (.defaultLoss { probability := 0.5 }), .configure (.latency l (.fixed 20)),
        .configure (.loss k {}), .enqueue ⟨l, [1]⟩ 5, .enqueue ⟨l, [2]⟩ 5, .enqueue ⟨k, [3]⟩ 9,
        .enqueue ⟨l, [4]⟩ 5, .enqueue ⟨l, [5]⟩ 5, .cut l, .enqueue ⟨l, [6]⟩ 6, .mend l, .drain 25,
        .enqueue ⟨l, [7]⟩ 18446744073709551600, .enqueue ⟨k, [8]⟩ 18446744073709551600,
        .enqueue ⟨l, [9]⟩ 18446744073709551603, .drain 18446744073709551615]
    let replies := (steps ops start).1
    let admitted : List (Time × Message) :=
      [(25, ⟨l, [1]⟩), (25, ⟨l, [2]⟩), (25, ⟨l, [4]⟩), (18446744073709551615, ⟨l, [7]⟩),
        (18446744073709551615, ⟨l, [9]⟩)]
    OffersAtLatency l 20 ops start ∧
      entriesOn l ((ops.zip replies).filterMap Post.admitted?) = admitted ∧
      entriesOn l (replies.flatMap (·.messages)) <+: admitted := by
  intro k l start ops replies admitted
  have fixed : OffersAtLatency l 20 ops start := by decide +kernel
  have taken : entriesOn l ((ops.zip replies).filterMap Post.admitted?) = admitted := by
    decide +kernel
  obtain ⟨inOrder, -⟩ :=
    fixed_latency_keeps_order (n := start) rfl fixed (by simp [ops]) (by decide)
  exact ⟨fixed, taken, taken ▸ inOrder⟩

end Network

end MeshNet
