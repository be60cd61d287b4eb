import Mathlib.Algebra.Ring.Nat
import MeshNet.Proofs.Loss.Tracking

namespace MeshNet

def burstTile (length : Nat) (burst : Bool) : List Bool :=
  if burst then List.replicate length true else [false]

theorem getLast?_of_append {xs ys : List Bool} (h : (xs ++ ys).getLast? ≠ some true) :
    ys.getLast? ≠ some true := by
  intro hy
  rw [List.getLast?_append, hy] at h
  exact h rfl

theorem eq_nil_of_append_eq_replicate {n : Nat} {xs ys : List Bool}
    (h : xs ++ ys = List.replicate n true) (last : xs.getLast? ≠ some true) : xs = [] := by
  obtain ⟨-, hx, -⟩ := List.append_eq_replicate_iff.1 h
  rw [hx, List.getLast?_replicate] at last
  split at last
  · next hl => exact List.length_eq_zero_iff.1 hl
  · exact absurd rfl last

theorem dvd_of_tiled {length k : Nat} {tiles before after : List Bool}
    (h : tiles.flatMap (burstTile length) = before ++ (List.replicate k true ++ false :: after))
    (start : before.getLast? ≠ some true) : length ∣ k := by
  induction tiles generalizing before k with
  | nil => simp at h
  | cons tile tiles ih =>
    rw [List.flatMap_cons] at h
    obtain ⟨rest, rfl, hr⟩ | ⟨rest, ht, hr⟩ := List.append_eq_append_iff.1 h
    · exact ih hr (getLast?_of_append start)
    -- The tile reaches into the run of losses, or to the message after it.
    cases tile with
    | false =>
      obtain ⟨rfl, rfl⟩ | ⟨rfl, rfl⟩ := List.append_eq_singleton_iff.1 ht.symm
      · cases k with
        | zero => exact Nat.dvd_zero length
        | succ k => simp [List.replicate_succ] at hr
      · exact ih (show tiles.flatMap (burstTile length) = [] ++ _ from hr.symm) nofun
    | true =>
      obtain rfl := eq_nil_of_append_eq_replicate ht.symm start
      obtain rfl : List.replicate length true = rest := ht
      obtain ⟨losses, hl, hr⟩ | ⟨losses, hl, hr⟩ := List.append_eq_append_iff.1 hr
      · obtain ⟨hk, -, hl⟩ := List.append_eq_replicate_iff.1 hl.symm
        cases losses with
        | nil => simp at hk; simp [hk]
        | cons loss losses =>
          have hm := List.eq_of_mem_replicate (hl ▸ List.mem_cons_self : loss ∈ List.replicate _ true)
          rw [hm] at hr
          cases hr
      · obtain ⟨hk, -, hl⟩ := List.append_eq_replicate_iff.1 hl.symm
        have hrest : tiles.flatMap (burstTile length) =
            [] ++ (List.replicate losses.length true ++ false :: after) := by rw [hr, ← hl]; rfl
        have hd : length ∣ losses.length := ih hrest nofun
        rw [List.length_replicate] at hk
        rw [← hk]
        exact Nat.dvd_add_self_left.2 hd

namespace Conditions

def verdict? (l : Link) : ConditionOp × ConditionReply → Option Bool
  | (.sampleLoss k, .sampledLoss lost) => if k = l then some lost else none
  | _ => none

def verdicts (l : Link) (ops : List ConditionOp) (c : Conditions) : List Bool :=
  (ops.zip (steps ops c).1).filterMap (verdict? l)

theorem verdicts_cons_of_ne {l : Link} {op : ConditionOp} (h : op ≠ .sampleLoss l)
    (ops : List ConditionOp) (c : Conditions) :
    verdicts l (op :: ops) c = verdicts l ops (c.step op).2 := by
  cases op with
  | sampleLoss k =>
    have hk : k ≠ l := fun hk => h (congrArg _ hk)
    simp [verdicts, steps, step, verdict?, hk]
  | sampleLatency k | reseed source => rfl
  | configure s => exact List.filterMap_cons_none rfl

theorem verdicts_cons_sampleLoss (l : Link) (ops : List ConditionOp) (c : Conditions) :
    verdicts l (.sampleLoss l :: ops) c = (c.sampleLoss l).1 :: verdicts l ops (c.sampleLoss l).2 := by
  simp [verdicts, steps, step, verdict?]

def Undisturbed (l : Link) : List ConditionOp → Conditions → Prop
  | [], _ => True
  | op :: ops, c => ¬ op.Resets c l ∧ Undisturbed l ops (c.step op).2

instance decidableUndisturbed (l : Link) :
    (ops : List ConditionOp) → (c : Conditions) → Decidable (Undisturbed l ops c)
  | [], _ => inferInstanceAs (Decidable True)
  | op :: ops, c =>
    have := decidableUndisturbed l ops (c.step op).2
    inferInstanceAs (Decidable (_ ∧ _))

theorem steps_concat (ops : List ConditionOp) (op : ConditionOp) (c : Conditions) :
    (steps (ops ++ [op]) c).2 = ((steps ops c).2.step op).2 := by
  induction ops generalizing c with
  | nil => rfl
  | cons op' ops ih => exact ih _

theorem lossFor_steps {l : Link} {ops : List ConditionOp} {c : Conditions}
    (h : Undisturbed l ops c) : (steps ops c).2.lossFor l = c.lossFor l := by
  induction ops generalizing c with
  | nil => rfl
  | cons op ops ih =>
    rw [steps, ih h.2, lossFor_step h.1]

theorem toNat_rest (left : UInt32) :
    ((if 1 < left then some (left - 1) else none).getD 0).toNat = left.toNat - 1 := by
  split
  · next many =>
    have := UInt32.lt_iff_toNat_lt.1 many
    rw [Option.getD_some, UInt32.toNat_sub_of_le _ _ (UInt32.le_of_lt many)]
    rfl
  · next few =>
    have := UInt32.le_iff_toNat_le.1 (UInt32.not_lt.1 few)
    have : (1 : UInt32).toNat = 1 := rfl
    change 0 = _
    omega

theorem sampleLoss_tiled {c : Conditions} {l : Link} (tracked : c.Tracked l)
    (mode : (c.lossFor l).val.burstMode = true) :
    ∃ tiles : List Bool,
      (c.sampleLoss l).1 :: List.replicate ((c.sampleLoss l).2.remaining l).toNat true =
        List.replicate (c.remaining l).toNat true ++
          tiles.flatMap (burstTile (c.lossFor l).val.burstLength.toNat) := by
  have hr : c.remaining l = c.bursts[l]?.getD 0 := rfl
  have hr' : (c.sampleLoss l).2.remaining l = (c.sampleLoss l).2.bursts[l]?.getD 0 := rfl
  cases c.sampled l with
  | @goesOn left _ under_way verdict after =>
    have pos : 0 < left.toNat := UInt32.lt_iff_toNat_lt.1 (tracked _ under_way).1
    rw [verdict, hr', after, toNat_rest, hr, under_way, Option.getD_some, ← List.replicate_succ,
      Nat.sub_add_cancel pos]
    exact ⟨[], (List.append_nil _).symm⟩
  | begins _ idle verdict possible after =>
    have positive : (c.lossFor l).val.burstLength.toNat ≠ 0 := fun h0 =>
      (c.lossFor l).property.2 mode (UInt32.toNat_inj.1 h0)
    rw [verdict, hr', after, toNat_rest, hr, idle, ← List.replicate_succ,
      Nat.sub_add_cancel (Nat.pos_of_ne_zero positive)]
    exact ⟨[true], (List.append_nil _).symm⟩
  | passes _ idle verdict after =>
    rw [verdict, hr', after, hr, idle]
    exact ⟨[false], rfl⟩
  | independent off after =>
    rw [mode] at off
    cases off

theorem verdicts_tiled {l : Link} {ops : List ConditionOp} {c : Conditions}
    (h : Undisturbed l ops c) (tracked : c.Tracked l)
    (mode : (c.lossFor l).val.burstMode = true) :
    ∃ tiles : List Bool,
      verdicts l ops c ++ List.replicate ((steps ops c).2.remaining l).toNat true =
        List.replicate (c.remaining l).toNat true ++
          tiles.flatMap (burstTile (c.lossFor l).val.burstLength.toNat) := by
  induction ops generalizing c with
  | nil => exact ⟨[], by simp [verdicts, steps]⟩
  | cons op ops ih =>
    have model := lossFor_step h.1
    obtain ⟨tiles, ht⟩ := ih h.2 (tracked_step tracked op) (by rw [model, mode])
    rw [model] at ht
    by_cases hs : op = .sampleLoss l
    · subst hs
      obtain ⟨tile, hl⟩ := sampleLoss_tiled tracked mode
      refine ⟨tile ++ tiles, ?_⟩
      rw [List.flatMap_append, ← List.append_assoc, ← hl, verdicts_cons_sampleLoss, List.cons_append,
        List.cons_append]
      exact congrArg ((c.sampleLoss l).1 :: ·) ht
    · have same : (c.step op).2.remaining l = c.remaining l := by
        rw [remaining, remaining, bursts_step h.1 hs]
      rw [verdicts_cons_of_ne hs, ← same]
      exact ⟨tiles, ht⟩

theorem inBurst_iff {c : Conditions} {l : Link} (tracked : c.Tracked l) :
    c.inBurst l = true ↔ 0 < c.remaining l := by
  rw [inBurst, remaining, Std.ExtTreeMap.contains_eq_isSome_getElem?]
  cases hb : c.bursts[l]? with
  | none => simp
  | some left => simp [(tracked left hb).1]

theorem model_of_inBurst {c : Conditions} {l : Link} (tracked : c.Tracked l)
    (h : c.inBurst l = true) :
    (c.lossFor l).val.burstMode = true ∧ 0.0 < (c.lossFor l).val.probability ∧
      c.remaining l < (c.lossFor l).val.burstLength := by
  rw [inBurst, Std.ExtTreeMap.contains_eq_isSome_getElem?] at h
  obtain ⟨left, hb⟩ := Option.isSome_iff_exists.1 h
  rw [remaining, hb]
  exact (tracked left hb).2

theorem losses_come_in_whole_bursts (source : Random.Source) (history : List ConditionOp) (l : Link) :
    let c := (steps history { source }).2
    ((c.inBurst l = true ↔ 0 < c.remaining l) ∧
      (c.inBurst l = true → (c.lossFor l).val.burstMode = true ∧
        0.0 < (c.lossFor l).val.probability ∧
        c.remaining l < (c.lossFor l).val.burstLength)) ∧
    (∀ op : ConditionOp, ¬ op.Resets c l → (c.step op).2.lossFor l = c.lossFor l ∧
      (op ≠ .sampleLoss l → (c.step op).2.bursts[l]? = c.bursts[l]?)) ∧
    ∀ (period : List ConditionOp) (length : UInt32),
      (history = [] ∨ ∃ before op, history = before ++ [op] ∧
        op.Resets (steps before { source }).2 l) →
      Undisturbed l period c →
      (c.lossFor l).val.burstMode = true → (c.lossFor l).val.burstLength = length →
        (steps period c).2.lossFor l = c.lossFor l ∧
        (∃ tiles : List Bool,
          verdicts l period c ++ List.replicate ((steps period c).2.remaining l).toNat true =
            tiles.flatMap (burstTile length.toNat)) ∧
        ∀ (before after : List Bool) (k : Nat),
          verdicts l period c = before ++ List.replicate k true ++ false :: after →
            before.getLast? ≠ some true → length.toNat ∣ k := by
  intro c
  have tracked : c.Tracked l := tracked_steps (tracked_of_bursts rfl) history
  refine ⟨⟨inBurst_iff tracked, model_of_inBurst tracked⟩, fun op hr =>
    ⟨lossFor_step hr, bursts_step hr⟩, ?_⟩
  intro period length fresh undisturbed mode hl
  have idle : c.remaining l = 0 := by
    have forgotten : c.bursts[l]? = none := by
      rcases fresh with rfl | ⟨before, op, rfl, hr⟩
      · rfl
      · rw [show c = _ from steps_concat before op _]
        exact bursts_of_resets hr
    rw [remaining, forgotten]
    rfl
  obtain ⟨tiles, ht⟩ := verdicts_tiled undisturbed tracked mode
  rw [idle, hl] at ht
  refine ⟨lossFor_steps undisturbed, ⟨tiles, ht⟩, fun before after k hv start => ?_⟩
  have hs : tiles.flatMap (burstTile length.toNat) = before ++ (List.replicate k true ++
      false :: (after ++ List.replicate ((steps period c).2.remaining l).toNat true)) := by
    rw [hv] at ht
    simpa using ht.symm
  exact dvd_of_tiled hs start

theorem losses_come_in_whole_bursts_overridden_link :
    let l : Link := ⟨⟨1⟩, ⟨2⟩⟩
    let m : LossModel := { probability := 0.5, burstMode := true, burstLength := 3 }
    let history : List ConditionOp := [.sampleLatency l, .configure (.loss l m)]
    let period : List ConditionOp :=
      [.sampleLoss l, .sampleLoss l, .configure (.defaultLoss { probability := 1.0 }),
        .sampleLoss l.reverse, .configure (.loss l { probability := 2.0 }), .sampleLoss l,
        .configure (.loss l.reverse m), .sampleLoss l, .sampleLoss l, .sampleLoss l, .sampleLoss l,
        .sampleLoss l]
    let c := (steps history { source := .seeded 5 }).2
    (c.lossFor l).val.burstMode = true ∧
      verdicts l period c = [false] ++ List.replicate 6 true ++ [false] ∧
      (3 : UInt32).toNat ∣ 6 := by
  intro l m history period c
  have reset : (ConditionOp.configure (.loss l m)).Resets
      (steps [.sampleLatency l] { source := .seeded 5 }).2 l := by
    decide +kernel
  have undisturbed : Undisturbed l period c := by
    decide +kernel
  have mode : (c.lossFor l).val.burstMode = true := by
    decide +kernel
  have hv : verdicts l period c = [false] ++ List.replicate 6 true ++ [false] := by
    decide +kernel
  have length : (c.lossFor l).val.burstLength = 3 := by
    decide +kernel
  obtain ⟨-, -, whole⟩ := losses_come_in_whole_bursts (.seeded 5) history l
  obtain ⟨-, -, runs⟩ := whole period 3 (.inr ⟨_, _, rfl, reset⟩) undisturbed mode length
  exact ⟨mode, hv, runs _ _ 6 hv (by decide)⟩

end Conditions

end MeshNet
