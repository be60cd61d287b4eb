import MeshNet.Proofs.Conservation.Balance
import MeshNet.Proofs.Network.Delivery

namespace MeshNet

instance lawfulOrderMax : Std.LawfulOrderMax UInt32 where
  max_eq_or a b := by
    rcases Nat.le_total a.toNat b.toNat with h | h
    · right
      rw [← UInt32.toNat_inj, LatencyModel.toNat_max, Nat.max_eq_right h]
    · left
      rw [← UInt32.toNat_inj, LatencyModel.toNat_max, Nat.max_eq_left h]
  max_le_iff a b c := by
    simp only [UInt32.le_iff_toNat_le, LatencyModel.toNat_max]
    exact Nat.max_le

instance commutative_max : Std.Commutative (max : UInt32 → UInt32 → UInt32) where
  comm a b := by
    rw [← UInt32.toNat_inj, LatencyModel.toNat_max, LatencyModel.toNat_max, Nat.max_comm]

namespace LinkStats

def summary (latencies : List UInt32) (dropped : Nat) : LinkStats where
  delivered := latencies.length
  dropped
  min := latencies.min?.getD 0
  max := latencies.max?.getD 0
  total := (latencies.map UInt32.toNat).sum

variable {latencies : List UInt32} {dropped : Nat}

theorem record_summary (latency : UInt32) :
    (summary latencies dropped).record latency = summary (latencies ++ [latency]) dropped := by
  cases latencies with
  | nil => simp [summary, record]
  | cons first rest => simp [summary, record, List.min?, List.max?, Nat.add_assoc]

theorem drop_summary : (summary latencies dropped).drop = summary latencies (dropped + 1) := rfl

theorem foldl_record (latencies : List UInt32) :
    latencies.foldl record {} = summary latencies 0 := by
  induction latencies using List.reverseRecOn with
  | nil => rfl
  | append_singleton latencies latency ih => simp [ih, record_summary]

theorem le_total_summary {bound : UInt32} (h : ∀ x ∈ latencies, bound ≤ x) :
    latencies.length * bound.toNat ≤ (summary latencies dropped).total := by
  have words : ∀ x ∈ latencies.map UInt32.toNat, bound.toNat ≤ x := by
    intro x hx
    obtain ⟨y, hy, rfl⟩ := List.mem_map.mp hx
    exact UInt32.le_iff_toNat_le.mp (h y hy)
  simpa [summary] using List.card_nsmul_le_sum _ _ words

theorem total_summary_le {bound : UInt32} (h : ∀ x ∈ latencies, x ≤ bound) :
    (summary latencies dropped).total ≤ latencies.length * bound.toNat := by
  have words : ∀ x ∈ latencies.map UInt32.toNat, x ≤ bound.toNat := by
    intro x hx
    obtain ⟨y, hy, rfl⟩ := List.mem_map.mp hx
    exact UInt32.le_iff_toNat_le.mp (h y hy)
  simpa [summary] using List.sum_le_card_nsmul _ _ words

theorem min_summary (dropped : Nat) (h : latencies ≠ []) :
    (summary latencies dropped).min ∈ latencies ∧
      ∀ x ∈ latencies, (summary latencies dropped).min ≤ x := by
  cases least : latencies.min? with
  | none => exact absurd (List.min?_eq_none_iff.mp least) h
  | some m => simpa [summary, least] using List.min?_eq_some_iff.mp least

theorem max_summary (dropped : Nat) (h : latencies ≠ []) :
    (summary latencies dropped).max ∈ latencies ∧
      ∀ x ∈ latencies, x ≤ (summary latencies dropped).max := by
  cases greatest : latencies.max? with
  | none => exact absurd (List.max?_eq_none_iff.mp greatest) h
  | some m => simpa [summary, greatest] using List.max?_eq_some_iff.mp greatest

theorem average_summary (h : latencies ≠ []) :
    let s := summary latencies dropped
    s.average.toNat = s.total / s.delivered ∧ s.min ≤ s.average ∧ s.average ≤ s.max := by
  intro s
  have some_delivered : 0 < s.delivered := List.length_pos_iff.mpr h
  have low : s.min.toNat ≤ s.total / s.delivered := by
    rw [Nat.le_div_iff_mul_le some_delivered, Nat.mul_comm]
    exact le_total_summary (min_summary dropped h).2
  have high : s.total / s.delivered ≤ s.max.toNat :=
    Nat.div_le_of_le_mul (total_summary_le (max_summary dropped h).2)
  have whole : s.average.toNat = s.total / s.delivered := by
    rw [average, if_neg (Nat.ne_of_gt some_delivered), UInt32.toNat_ofNat_of_lt']
    exact Nat.lt_of_le_of_lt high s.max.toNat_lt
  refine ⟨whole, ?_, ?_⟩
  · rwa [UInt32.le_iff_toNat_le, whole]
  · rwa [UInt32.le_iff_toNat_le, whole]

theorem drop_eq_merge (s : LinkStats) : s.drop = s.merge (({} : LinkStats).drop) := rfl

theorem merge_assoc (s t u : LinkStats) : (s.merge t).merge u = s.merge (t.merge u) := by
  by_cases hs : s.delivered = 0 <;> by_cases ht : t.delivered = 0 <;>
    by_cases hu : u.delivered = 0 <;>
    simp [merge, hs, ht, hu, Std.Associative.assoc]

theorem merge_right_comm (s t u : LinkStats) : (s.merge t).merge u = (s.merge u).merge t := by
  have least (a b c : UInt32) : Min.min (Min.min a b) c = Min.min (Min.min a c) b := by ac_rfl
  have greatest (a b c : UInt32) : Max.max (Max.max a b) c = Max.max (Max.max a c) b := by ac_rfl
  rw [merge, merge, merge, merge, mk.injEq]
  refine ⟨Nat.add_right_comm .., Nat.add_right_comm .., ?_, ?_, Nat.add_right_comm ..⟩
  · by_cases hs : s.delivered = 0 <;> by_cases ht : t.delivered = 0 <;>
      by_cases hu : u.delivered = 0 <;> simp [hs, ht, hu, least _ t.min]
    ac_rfl
  · by_cases hs : s.delivered = 0 <;> by_cases ht : t.delivered = 0 <;>
      by_cases hu : u.delivered = 0 <;> simp [hs, ht, hu, greatest _ t.max]
    ac_rfl

theorem foldl_merge (ss : List LinkStats) (s e : LinkStats) :
    ss.foldl merge (s.merge e) = (ss.foldl merge s).merge e := by
  induction ss generalizing s with
  | nil => rfl
  | cons r ss ih => rw [List.foldl_cons, merge_right_comm, ih, List.foldl_cons]

theorem foldl_record_perm {xs ys : List UInt32} (h : xs.Perm ys) (s : LinkStats) :
    xs.foldl record s = ys.foldl record s := by
  refine h.foldl_eq' (fun x _ y _ t => ?_) s
  rw [record_eq_merge, record_eq_merge t, merge_right_comm, ← record_eq_merge, ← record_eq_merge]

end LinkStats

namespace Traffic

theorem total_update_merge (t : Traffic) (l : Link) (e : LinkStats) :
    (t.update l (·.merge e)).total = t.total.merge e := by
  have split {u : Std.ExtTreeMap Link LinkStats} {v : LinkStats}
      (h : u.toList.Perm ((l, v) :: (t.stats.erase l).toList)) :
      u.values.foldl .merge {} =
        (t.stats.erase l).values.foldl .merge (({} : LinkStats).merge v) := by
    have values := (h.map (·.2)).foldl_eq' (f := LinkStats.merge)
      (fun x _ y _ s => s.merge_right_comm x y) {}
    rw [MapSum.values_eq, MapSum.values_eq, values]
    rfl
  have before : t.total =
      (t.stats.erase l).values.foldl .merge (({} : LinkStats).merge (t.on l)) := by
    cases h : t.stats[l]? with
    | none => simp [total, on, h, MapSum.erase_of_none h]
    | some s =>
      rw [total, split (MapSum.toList_erase_perm h), on, h]
      rfl
  rw [before, total, update, split (MapSum.toList_insert_perm t.stats l _),
    ← LinkStats.merge_assoc, LinkStats.foldl_merge]

end Traffic

structure Offer where
  link : Link
  latency : Option UInt32
deriving DecidableEq

namespace Offer

def latencies (log : List Offer) : List UInt32 := log.filterMap (·.latency)

def drops (log : List Offer) : Nat := log.countP (·.latency.isNone)

def on (l : Link) (log : List Offer) : List Offer := log.filter (·.link = l)

def enter (o : Offer) (s : LinkStats) : LinkStats :=
  match o.latency with
  | some latency => s.record latency
  | none => s.drop

def summary (log : List Offer) : LinkStats := .summary (latencies log) (drops log)

theorem enter_eq_merge (o : Offer) (s : LinkStats) : o.enter s = s.merge (o.enter {}) := by
  obtain ⟨l, _ | latency⟩ := o
  · exact s.drop_eq_merge
  · exact s.record_eq_merge latency

theorem enter_summary (o : Offer) (log : List Offer) :
    o.enter (summary log) = summary (log ++ [o]) := by
  obtain ⟨l, _ | latency⟩ := o
  · simp [enter, summary, latencies, drops, LinkStats.drop_summary]
  · simp [enter, summary, latencies, drops, LinkStats.record_summary]

theorem mem_latencies {log : List Offer} {latency : UInt32} :
    latency ∈ latencies log ↔ ∃ o ∈ log, o.latency = some latency := by
  simp [latencies]

theorem mem_latencies_on {log : List Offer} {l : Link} {latency : UInt32} :
    latency ∈ latencies (on l log) ↔ ∃ o ∈ log, o.link = l ∧ o.latency = some latency := by
  simp [latencies, on, and_assoc]

theorem latencies_on_subset (l : Link) (log : List Offer) :
    ∀ latency ∈ latencies (on l log), latency ∈ latencies log := by
  intro latency h
  obtain ⟨o, ho, -, told⟩ := mem_latencies_on.mp h
  exact mem_latencies.mpr ⟨o, ho, told⟩

theorem latencies_ne_nil {log : List Offer} (h : (summary log).delivered ≠ 0) :
    latencies log ≠ [] := by
  intro none
  simp [summary, LinkStats.summary, none] at h

theorem min_summary_le {log : List Offer} {l : Link} (h : (summary (on l log)).delivered ≠ 0) :
    (summary log).min ≤ (summary (on l log)).min := by
  have own := (LinkStats.min_summary (drops (on l log)) (latencies_ne_nil h)).1
  have all := latencies_on_subset l log _ own
  exact (LinkStats.min_summary _ (List.ne_nil_of_mem all)).2 _ all

theorem exists_min_summary {log : List Offer} (h : (summary log).delivered ≠ 0) :
    ∃ l, (summary (on l log)).delivered ≠ 0 ∧ (summary (on l log)).min = (summary log).min := by
  have least := LinkStats.min_summary (drops log) (latencies_ne_nil h)
  obtain ⟨o, ho, told⟩ := mem_latencies.mp least.1
  have own : (summary log).min ∈ latencies (on o.link log) :=
    mem_latencies_on.mpr ⟨o, ho, rfl, told⟩
  have some_delivered : (summary (on o.link log)).delivered ≠ 0 :=
    Nat.ne_of_gt (List.length_pos_of_mem own)
  refine ⟨o.link, some_delivered, UInt32.le_antisymm ?_ (min_summary_le some_delivered)⟩
  exact (LinkStats.min_summary _ (List.ne_nil_of_mem own)).2 _ own

theorem average_summary {log : List Offer} (h : (summary log).delivered ≠ 0) :
    (summary log).average.toNat = (summary log).total / (summary log).delivered ∧
      (summary log).min ≤ (summary log).average ∧ (summary log).average ≤ (summary log).max :=
  LinkStats.average_summary (latencies_ne_nil h)

theorem total_summary_lt {log : List Offer} (few : (latencies log).length ≤ 2 ^ 32) :
    (summary log).total < 2 ^ 64 := by
  have most : (summary log).total ≤ (latencies log).length * (UInt32.ofNat (2 ^ 32 - 1)).toNat :=
    LinkStats.total_summary_le fun x _ => UInt32.le_iff_toNat_le.mpr (Nat.le_of_lt_succ x.toNat_lt)
  have word : (UInt32.ofNat (2 ^ 32 - 1)).toNat = 2 ^ 32 - 1 := rfl
  rw [word] at most
  omega

theorem length_latencies_on_le (l : Link) (log : List Offer) :
    (latencies (on l log)).length ≤ (latencies log).length :=
  (List.filter_sublist.filterMap _).length_le

end Offer

structure Traffic.Tells (t : Traffic) (log : List Offer) : Prop where
  on : ∀ l, t.on l = Offer.summary (Offer.on l log)
  total : t.total = Offer.summary log

namespace Traffic.Tells

theorem empty : (∅ : Traffic).Tells [] := ⟨fun _ => rfl, rfl⟩

theorem total_lt {t : Traffic} {log : List Offer} (h : t.Tells log)
    (few : t.total.delivered ≤ 2 ^ 32) :
    t.total.total < 2 ^ 64 ∧ ∀ l, (t.on l).total < 2 ^ 64 := by
  rw [h.total] at few ⊢
  refine ⟨Offer.total_summary_lt few, fun l => ?_⟩
  rw [h.on]
  exact Offer.total_summary_lt (Nat.le_trans (Offer.length_latencies_on_le l log) few)

theorem enter {t : Traffic} {log : List Offer} (h : t.Tells log) (o : Offer) :
    (t.update o.link o.enter).Tells (log ++ [o]) := by
  constructor
  · intro l
    rw [on_update, Offer.on, List.filter_append]
    by_cases hl : o.link = l
    · rw [if_pos hl, h.on, Offer.enter_summary, hl, Offer.on]
      simp [hl]
    · rw [if_neg hl, h.on, Offer.on]
      simp [hl]
  · have entered : o.enter = (·.merge (o.enter {})) := funext o.enter_eq_merge
    rw [entered, total_update_merge, h.total, ← o.enter_eq_merge, Offer.enter_summary]

end Traffic.Tells

namespace Network

def note (n : Network) (log : List Offer) : NetworkOp → List Offer
  | .enqueue m _ => log ++ [⟨m.link, (n.conditions.sampleFate n.cuts m.link).1⟩]
  | .resetTraffic => []
  | .drain _ | .clear | .drops _ | .configure _ | .cut _ | .mend _ | .mendAll => log

def history : List NetworkOp → Network → List Offer → List Offer
  | [], _, log => log
  | op :: ops, n, log => history ops (n.step op).2 (n.note log op)

theorem enqueue_eq_offer (n : Network) (m : Message) (now : Time) :
    let o : Offer := ⟨m.link, (n.conditions.sampleFate n.cuts m.link).1⟩
    (n.enqueue m now).1 = o.latency.map (fun latency => now.advance latency.toUInt64) ∧
      (n.enqueue m now).2.traffic = n.traffic.update o.link o.enter := by
  obtain ⟨told, -, counted, fate⟩ | ⟨latency, told, -, counted, fate⟩ := n.enqueue_cases m now
  · rw [told, counted, fate]
    exact ⟨rfl, rfl⟩
  · rw [told, counted, fate]
    exact ⟨rfl, rfl⟩

theorem traffic_step (n : Network) {op : NetworkOp} (offers : ∀ m now, op ≠ .enqueue m now)
    (resets : op ≠ .resetTraffic) : (n.step op).2.traffic = n.traffic := by
  cases op with
  | enqueue m now => exact absurd rfl (offers m now)
  | resetTraffic => exact absurd rfl resets
  | drops l => exact (n.drops_frame l).2
  | configure s => exact (n.configure_frame s).2
  | drain now | clear | cut l | mend l | mendAll => rfl

theorem tells_step {n : Network} {log : List Offer} (h : n.traffic.Tells log) (op : NetworkOp) :
    (n.step op).2.traffic.Tells (n.note log op) := by
  cases op with
  | enqueue m now =>
    rw [step, (n.enqueue_eq_offer m now).2]
    exact h.enter _
  | resetTraffic => exact .empty
  | drops l | configure s | drain now | clear | cut l | mend l | mendAll =>
    rw [traffic_step n (by simp) (by simp)]
    exact h

theorem tells_steps {n : Network} {log : List Offer} (h : n.traffic.Tells log)
    (ops : List NetworkOp) : (steps ops n).2.traffic.Tells (history ops n log) := by
  induction ops generalizing n log with
  | nil => exact h
  | cons op ops ih => exact ih (tells_step h op)

theorem statistics_summarize_history (c : Conditions) (ops : List NetworkOp) :
    let n := (steps ops { conditions := c }).2
    let log := history ops { conditions := c } []
    (∀ l, n.traffic.on l = Offer.summary (Offer.on l log)) ∧
    (∀ xs : List UInt32, xs.Perm (Offer.latencies log) →
      n.traffic.total = { xs.foldl LinkStats.record {} with
        dropped := (n.traffic.stats.values.map (·.dropped)).sum }) ∧
    (n.traffic.stats.values.map (·.dropped)).sum = Offer.drops log ∧
    (∀ l, (n.traffic.on l).delivered ≠ 0 → n.traffic.total.min ≤ (n.traffic.on l).min) ∧
    (n.traffic.total.delivered ≠ 0 →
      ∃ l, (n.traffic.on l).delivered ≠ 0 ∧ (n.traffic.on l).min = n.traffic.total.min) ∧
    (∀ s, s = n.traffic.total ∨ (∃ l, s = n.traffic.on l) → s.delivered ≠ 0 →
      s.average.toNat = s.total / s.delivered ∧ s.min ≤ s.average ∧ s.average ≤ s.max) ∧
    ((Offer.latencies log).length < 2 ^ 32 →
      n.traffic.total.total < 2 ^ 64 ∧ ∀ l, (n.traffic.on l).total < 2 ^ 64) ∧
    (∀ (now : Time) (m : Message) (before : Network), (before.enqueue m now).1 =
      (before.conditions.sampleFate before.cuts m.link).1.map fun latency =>
        now.advance latency.toUInt64) ∧
    ∀ (before : Network) (op : NetworkOp), (∀ m now, op ≠ .enqueue m now) → op ≠ .resetTraffic →
      (before.step op).2.traffic = before.traffic := by
  intro n log
  have tells : n.traffic.Tells log := tells_steps .empty ops
  have drops : (n.traffic.stats.values.map (·.dropped)).sum = Offer.drops log := by
    have total := n.traffic.total_eq LinkStats.additive_dropped
    rw [tells.total] at total
    exact total.symm
  refine ⟨tells.on, fun xs any => ?_, drops, fun l => ?_, ?_, fun s hs => ?_, fun few => ?_,
    fun now m before => (before.enqueue_eq_offer m now).1,
    fun before op offers resets => before.traffic_step offers resets⟩
  · have recorded : xs.foldl LinkStats.record {} = LinkStats.summary (Offer.latencies log) 0 := by
      rw [LinkStats.foldl_record_perm any]
      exact LinkStats.foldl_record (Offer.latencies log)
    rw [tells.total, drops, recorded]
    rfl
  · rw [tells.on, tells.total]
    exact Offer.min_summary_le
  · simp only [tells.on, tells.total]
    exact Offer.exists_min_summary
  · rcases hs with rfl | ⟨l, rfl⟩
    · rw [tells.total]
      exact Offer.average_summary
    · rw [tells.on]
      exact Offer.average_summary
  · have admitted : n.traffic.total.delivered = (Offer.latencies log).length := by
      rw [tells.total]
      rfl
    exact tells.total_lt (admitted ▸ Nat.le_of_lt few)

theorem statistics_summarize_history_drops_and_reset :
    let j : Link := ⟨⟨1⟩, ⟨3⟩⟩
    let k : Link := ⟨⟨2⟩, ⟨1⟩⟩
    let l : Link := ⟨⟨1⟩, ⟨2⟩⟩
    let c : Conditions :=
      { defaultLatency := ⟨.fixed 20, LatencyModel.valid_fixed 20⟩, source := .seeded 1 }
    let ops : List NetworkOp :=
      [.enqueue ⟨l, [7]⟩ 5, .resetTraffic, .configure (.latency k (.fixed 30)), .cut j,
        .enqueue ⟨k, [8]⟩ 0, .enqueue ⟨j, [9]⟩ 0, .drops l, .enqueue ⟨l, [7]⟩ 18446744073709551615,
        .drain 60, .clear]
    let n := (steps ops { conditions := c }).2
    [20, 30].Perm (Offer.latencies (history ops { conditions := c } [])) ∧
      n.traffic.total = { delivered := 2, dropped := 1, min := 20, max := 30, total := 50 } ∧
      n.traffic.total.delivered ≠ 0 ∧ n.traffic.total.min ≤ n.traffic.total.average ∧
      n.traffic.on j = { dropped := 1 } := by
  intro j k l c ops n
  obtain ⟨tells, recorded, drops, -, -, between, -⟩ := statistics_summarize_history c ops
  have log : history ops { conditions := c } [] = [⟨k, some 30⟩, ⟨j, none⟩, ⟨l, some 20⟩] := by
    decide +kernel
  have any : [20, 30].Perm (Offer.latencies (history ops { conditions := c } [])) := by
    rw [log]
    exact .swap ..
  have total : n.traffic.total =
      { delivered := 2, dropped := 1, min := 20, max := 30, total := 50 } := by
    rw [recorded _ any, drops, log]
    decide
  have some_delivered : n.traffic.total.delivered ≠ 0 := by
    rw [total]
    decide
  refine ⟨any, total, some_delivered, (between _ (.inl rfl) some_delivered).2.1, ?_⟩
  rw [tells j, log]
  decide

end Network

end MeshNet
