import MeshNet.Proofs.Network.Offer

namespace MeshNet

inductive ConditionOp where
  | sampleLoss (l : Link)
  | sampleLatency (l : Link)
  | configure (s : Setting)
  /-- Another source takes over, so that what is drawn from here on may be anything. -/
  | reseed (source : Random.Source)

inductive ConditionReply where
  | sampledLoss (lost : Bool)
  | sampledLatency (latency : UInt32)
  | configured (error : Option ConditionError)
  | done
deriving DecidableEq

namespace Conditions

def step (c : Conditions) : ConditionOp → ConditionReply × Conditions
  | .sampleLoss l => (.sampledLoss (c.sampleLoss l).1, (c.sampleLoss l).2)
  | .sampleLatency l => (.sampledLatency (c.sampleLatency l).1, (c.sampleLatency l).2)
  | .configure s =>
    match s.apply c with
    | .ok c => (.configured none, c)
    | .error error => (.configured (some error), c)
  | .reseed source => (.done, { c with source })

def steps : List ConditionOp → Conditions → List ConditionReply × Conditions
  | [], c => ([], c)
  | op :: ops, c =>
    ((c.step op).1 :: (steps ops (c.step op).2).1, (steps ops (c.step op).2).2)

def inBurst (c : Conditions) (l : Link) : Bool := c.bursts.contains l

def remaining (c : Conditions) (l : Link) : UInt32 := c.bursts[l]?.getD 0

end Conditions

def Setting.forgets (c : Conditions) (l : Link) : Setting → Bool
  | loss k _ => k = l
  | defaultLoss _ => !c.losses.contains l
  | clearOverrides => true
  | defaultLatency _ | latency _ _ => false

def ConditionOp.Resets (c : Conditions) (l : Link) : ConditionOp → Prop
  | configure s => (s.apply c).isOk = true ∧ s.forgets c l = true
  | sampleLoss _ | sampleLatency _ | reseed _ => False

instance (c : Conditions) (l : Link) : (op : ConditionOp) → Decidable (op.Resets c l)
  | .configure _ => inferInstanceAs (Decidable (_ ∧ _))
  | .sampleLoss _ | .sampleLatency _ | .reseed _ => inferInstanceAs (Decidable False)

theorem exists_of_map_eq_ok {ε α β : Type} {x : Except ε α} {f : α → β} {b : β}
    (h : x.map f = .ok b) : ∃ a, x = .ok a ∧ f a = b := by
  cases x with
  | error e => cases h
  | ok a => exact ⟨a, rfl, Except.ok.inj h⟩

namespace Conditions

theorem bursts_of_forgets {c d : Conditions} {l : Link} {s : Setting} (h : s.apply c = .ok d)
    (forgets : s.forgets c l = true) : d.bursts[l]? = none := by
  cases s with
  | loss k m =>
    obtain ⟨m, -, rfl⟩ := exists_of_map_eq_ok h
    obtain rfl : k = l := by simpa [Setting.forgets] using forgets
    simp
  | defaultLoss m =>
    obtain ⟨m, -, rfl⟩ := exists_of_map_eq_ok h
    have absent : c.losses.contains l = false := by simpa [Setting.forgets] using forgets
    rw [Std.ExtTreeMap.getElem?_filter', absent]
    cases c.bursts[l]? <;> rfl
  | clearOverrides =>
    cases h
    exact Std.ExtTreeMap.getElem?_empty
  | defaultLatency m | latency k m => cases forgets

theorem kept_of_not_forgets {c d : Conditions} {l : Link} {s : Setting} (h : s.apply c = .ok d)
    (kept : s.forgets c l = false) : d.bursts[l]? = c.bursts[l]? ∧ d.lossFor l = c.lossFor l := by
  cases s with
  | loss k m =>
    obtain ⟨m, -, rfl⟩ := exists_of_map_eq_ok h
    have hk : k ≠ l := by simpa [Setting.forgets] using kept
    simp [lossFor, Std.ExtTreeMap.getElem?_erase, Std.ExtTreeMap.getElem?_insert, hk]
  | defaultLoss m =>
    obtain ⟨m, -, rfl⟩ := exists_of_map_eq_ok h
    have own : c.losses.contains l = true := by simpa [Setting.forgets] using kept
    constructor
    · rw [Std.ExtTreeMap.getElem?_filter', own]
      cases c.bursts[l]? <;> rfl
    · rw [Std.ExtTreeMap.contains_eq_isSome_getElem?] at own
      obtain ⟨v, hv⟩ := Option.isSome_iff_exists.1 own
      simp [lossFor, hv]
  | clearOverrides => cases kept
  | defaultLatency m | latency k m =>
    obtain ⟨m, -, rfl⟩ := exists_of_map_eq_ok h
    exact ⟨rfl, rfl⟩

theorem lossFor_sampleLoss (c : Conditions) (k l : Link) :
    (c.sampleLoss k).2.lossFor l = c.lossFor l :=
  congrArg (·.lossFor l) (c.models_sampleLoss k)

theorem bursts_sampleLoss_of_ne {c : Conditions} {k l : Link} (h : k ≠ l) :
    (c.sampleLoss k).2.bursts[l]? = c.bursts[l]? := by
  rw [sampleLoss]
  split
  · split
    · rw [continueBurst]
      split <;> simp [Std.ExtTreeMap.getElem?_erase, Std.ExtTreeMap.getElem?_insert, h]
    · simp only [startBurst]
      split
      · split
        · simp [draw, Std.ExtTreeMap.getElem?_insert, h]
        · rfl
      · rfl
  · simp [draw, Std.ExtTreeMap.getElem?_erase, h]

theorem bursts_continueBurst (c : Conditions) (l : Link) (left : UInt32) :
    (c.continueBurst l left).bursts[l]? = if 1 < left then some (left - 1) else none := by
  rw [continueBurst]
  split <;> simp

theorem bursts_startBurst {c : Conditions} {l : Link} (m : LossModel) (h : c.bursts[l]? = none) :
    (c.startBurst l m).bursts[l]? =
      if 1 < m.burstLength then some (m.burstLength - 1) else none := by
  rw [startBurst]
  split
  · simp
  · exact h

theorem probability_pos_of_begins {m : LossModel} {c : Conditions} (h : (c.draw m.begins).1 = true) :
    0.0 < m.probability := by
  by_cases hp : 0.0 < m.probability
  · exact hp
  · rw [LossModel.begins, if_neg hp] at h
    cases h

inductive Sampled (m : LossModel) (burst rest : Option UInt32) (lost : Bool) : Prop
  | goesOn {left : UInt32} (mode : m.burstMode = true) (under_way : burst = some left)
      (verdict : lost = true) (after : rest = if 1 < left then some (left - 1) else none)
  | begins (mode : m.burstMode = true) (idle : burst = none) (verdict : lost = true)
      (possible : 0.0 < m.probability)
      (after : rest = if 1 < m.burstLength then some (m.burstLength - 1) else none)
  | passes (mode : m.burstMode = true) (idle : burst = none) (verdict : lost = false)
      (after : rest = none)
  | independent (mode : m.burstMode = false) (after : rest = none)

theorem sampled (c : Conditions) (l : Link) :
    Sampled (c.lossFor l).val c.bursts[l]? (c.sampleLoss l).2.bursts[l]? (c.sampleLoss l).1 := by
  rw [sampleLoss]
  generalize (c.lossFor l).val = m
  by_cases mode : m.burstMode = true
  · rw [if_pos mode]
    cases hb : c.bursts[l]? with
    | some left => exact .goesOn mode rfl rfl (bursts_continueBurst c l left)
    | none =>
      have kept : (c.draw m.begins).2.bursts[l]? = none := hb
      cases lost : (c.draw m.begins).1 with
      | true =>
        simp only [lost, if_true]
        exact .begins mode rfl rfl (probability_pos_of_begins lost) (bursts_startBurst m kept)
      | false =>
        simp only [lost, Bool.false_eq_true, if_false]
        exact .passes mode rfl rfl kept
  · rw [if_neg mode]
    exact .independent (Bool.eq_false_iff.2 mode) Std.ExtTreeMap.getElem?_erase_self

theorem bursts_of_resets {c : Conditions} {l : Link} {op : ConditionOp} (h : op.Resets c l) :
    (c.step op).2.bursts[l]? = none := by
  cases op with
  | configure s =>
    obtain ⟨accepted, forgets⟩ := h
    rw [step]
    cases hd : s.apply c with
    | error error =>
      rw [hd] at accepted
      cases accepted
    | ok d => exact bursts_of_forgets hd forgets
  | sampleLoss k | sampleLatency k | reseed source => exact h.elim

theorem step_configure_kept {c : Conditions} {l : Link} {s : Setting}
    (h : ¬ (ConditionOp.configure s).Resets c l) :
    (c.step (.configure s)).2.bursts[l]? = c.bursts[l]? ∧
      (c.step (.configure s)).2.lossFor l = c.lossFor l := by
  rw [step]
  cases hd : s.apply c with
  | error error => exact ⟨rfl, rfl⟩
  | ok d =>
    refine kept_of_not_forgets hd (Bool.eq_false_iff.2 fun forgets => h ⟨?_, forgets⟩)
    rw [hd]
    rfl

theorem lossFor_step {c : Conditions} {l : Link} {op : ConditionOp} (h : ¬ op.Resets c l) :
    (c.step op).2.lossFor l = c.lossFor l := by
  cases op with
  | sampleLoss k => exact c.lossFor_sampleLoss k l
  | sampleLatency k | reseed source => rfl
  | configure s => exact (step_configure_kept h).2

theorem bursts_step {c : Conditions} {l : Link} {op : ConditionOp} (h : ¬ op.Resets c l)
    (other : op ≠ .sampleLoss l) : (c.step op).2.bursts[l]? = c.bursts[l]? := by
  cases op with
  | sampleLoss k => exact bursts_sampleLoss_of_ne fun hk => other (congrArg _ hk)
  | sampleLatency k | reseed source => rfl
  | configure s => exact (step_configure_kept h).1

def Tracked (c : Conditions) (l : Link) : Prop :=
  ∀ left, c.bursts[l]? = some left → 0 < left ∧ (c.lossFor l).val.burstMode = true ∧
    0.0 < (c.lossFor l).val.probability ∧ left < (c.lossFor l).val.burstLength

theorem tracked_of_bursts {c : Conditions} {l : Link} (h : c.bursts[l]? = none) : c.Tracked l := by
  intro left hl
  rw [h] at hl
  cases hl

theorem tracked_sampleLoss {c : Conditions} {l : Link} (h : c.Tracked l) :
    (c.sampleLoss l).2.Tracked l := by
  intro left hl
  rw [lossFor_sampleLoss]
  cases c.sampled l with
  | goesOn mode under_way verdict after =>
    rw [hl] at after
    split at after
    · next many =>
      cases after
      obtain ⟨-, mode, possible, below⟩ := h _ under_way
      exact ⟨by grind, mode, possible, by grind⟩
    · cases after
  | begins mode idle verdict possible after =>
    rw [hl] at after
    split at after
    · next many =>
      cases after
      exact ⟨by grind, mode, possible, by grind⟩
    · cases after
  | passes mode idle verdict after | independent mode after =>
    rw [hl] at after
    cases after

theorem tracked_step {c : Conditions} {l : Link} (h : c.Tracked l) (op : ConditionOp) :
    (c.step op).2.Tracked l := by
  by_cases hr : op.Resets c l
  · exact tracked_of_bursts (bursts_of_resets hr)
  by_cases hs : op = .sampleLoss l
  · rw [hs]
    exact tracked_sampleLoss h
  · rw [Tracked, bursts_step hr hs, lossFor_step hr]
    exact h

theorem tracked_steps {c : Conditions} {l : Link} (h : c.Tracked l) (ops : List ConditionOp) :
    (steps ops c).2.Tracked l := by
  induction ops generalizing c with
  | nil => exact h
  | cons op ops ih => exact ih (tracked_step h op)

end Conditions

end MeshNet
