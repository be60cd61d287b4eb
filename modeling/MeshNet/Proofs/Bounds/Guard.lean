import MeshNet.Proofs.Conservation.Exchange
import MeshNet.Proofs.Event.Atomic
import MeshNet.Proofs.Loss.Tracking
import MeshNet.Simulation

namespace MeshNet

/-- Words that can be too short for what is counted in them. -/
inductive Word where
  | groupNumber
  | latencySum
  | byteSum
deriving DecidableEq, Repr

def Word.size : Word → Nat
  | groupNumber => UInt32.size
  | latencySum | byteSum => UInt64.size

inductive Breach where
  | fault (fault : Fault)
  | difference (a b : Nat)
  | overflow (w : Word) (n : Nat)
  | quotient (a : Nat)
deriving DecidableEq, Repr

abbrev Guarded := Except Breach

namespace Guarded

def lift {α : Type} (x : Checked α) : Guarded α := x.mapError .fault

def difference (a b : Nat) : Guarded Nat := if b ≤ a then .ok (a - b) else .error (.difference a b)

def quotient (a b : Nat) : Guarded Nat := if b = 0 then .error (.quotient a) else .ok (a / b)

def bounded (w : Word) (n : Nat) : Guarded Nat := if n < w.size then .ok n else .error (.overflow w n)

variable {α β : Type}

@[simp] theorem lift_ok (a : α) : lift (.ok a) = .ok a := rfl

@[simp] theorem ok_bind (a : α) (f : α → Guarded β) : (.ok a : Guarded α) >>= f = f a := rfl

@[simp] theorem error_bind (b : Breach) (f : α → Guarded β) :
    (.error b : Guarded α) >>= f = .error b := rfl

@[simp] theorem map_ok (f : α → β) (a : α) : f <$> (.ok a : Guarded α) = .ok (f a) := rfl

theorem bounded_of_lt {w : Word} {n : Nat} (h : n < w.size) : bounded w n = .ok n := if_pos h

theorem bounded_of_le {w : Word} {n : Nat} (h : w.size ≤ n) :
    bounded w n = .error (.overflow w n) := if_neg (Nat.not_lt.mpr h)

theorem difference_of_le {a b : Nat} (h : b ≤ a) : difference a b = .ok (a - b) := if_pos h

theorem difference_words {a b : UInt32} (h : b ≤ a) :
    UInt32.ofNat <$> difference a.toNat b.toNat = .ok (a - b) := by
  rw [difference_of_le (UInt32.le_iff_toNat_le.mp h), map_ok]
  congr 1
  rw [← UInt32.toNat_inj, UInt32.toNat_sub_of_le a b h, UInt32.toNat_ofNat_of_lt']
  exact Nat.lt_of_le_of_lt (Nat.sub_le _ _) a.toNat_lt

end Guarded

/-- `x` is `y`, unless it stops at a word that is too short. Then what `y` comes to does not fit. -/
def Follows {α : Type} (fits : α → Prop) (x : Guarded α) (y : Checked α) : Prop :=
  x = Guarded.lift y ∨
    (∃ w n, Word.size w ≤ n ∧ x = .error (.overflow w n)) ∧ ∀ a, y = .ok a → ¬ fits a

namespace Follows

open Guarded (lift bounded)

variable {α β : Type} {P Q : α → Prop} {x : Guarded α} {y : Checked α}

theorem of_lift (P : α → Prop) (y : Checked α) : Follows P (lift y) y := .inl rfl

theorem mono (h : Follows P x y) (stronger : ∀ a, y = .ok a → Q a → P a) : Follows Q x y := by
  rcases h with same | ⟨stops, unfit⟩
  · exact .inl same
  · exact .inr ⟨stops, fun a ha hq => unfit a ha (stronger a ha hq)⟩

theorem eq_ok {a : α} (h : Follows P x y) (ha : y = .ok a) (fits : P a) : x = .ok a := by
  rcases h with same | ⟨-, unfit⟩
  · rw [same, ha, Guarded.lift_ok]
  · exact absurd fits (unfit a ha)

theorem eq_lift_or_overflow (h : Follows P x y) :
    x = lift y ∨ ∃ w n, Word.size w ≤ n ∧ x = .error (.overflow w n) :=
  h.imp id And.left

/-- What fits at the end has to have fitted in between. -/
theorem bind {R : β → Prop} {f : α → Checked β} {g : α → Guarded β} (h : Follows P x y)
    (hf : ∀ a, y = .ok a → Follows R (g a) (f a))
    (before : ∀ a b, y = .ok a → f a = .ok b → R b → P a) : Follows R (x >>= g) (y >>= f) := by
  rcases h with rfl | ⟨⟨w, n, large, rfl⟩, unfit⟩
  · cases y with
    | error fault => exact .inl rfl
    | ok a => exact hf a rfl
  · refine .inr ⟨⟨w, n, large, rfl⟩, fun b hb fits => ?_⟩
    obtain ⟨a, ha, hb⟩ := Checked.bind_eq_ok.mp hb
    exact unfit a ha (before a b ha hb fits)

theorem bind_lift {R : β → Prop} {f : α → Checked β} {g : α → Guarded β}
    (hf : ∀ a, y = .ok a → Follows R (g a) (f a)) : Follows R (lift y >>= g) (y >>= f) :=
  (of_lift (fun _ => True) y).bind hf fun _ _ _ _ _ => trivial

theorem bounded_bind {w : Word} {n : Nat} {g : Nat → Guarded α} (hg : Follows P (g n) y)
    (short : ∀ a, y = .ok a → P a → n < w.size) : Follows P (bounded w n >>= g) y := by
  by_cases h : n < w.size
  · rwa [Guarded.bounded_of_lt h, Guarded.ok_bind]
  · have large := Nat.not_lt.mp h
    rw [Guarded.bounded_of_le large]
    exact .inr ⟨⟨w, n, large, rfl⟩, fun a ha fits => h (short a ha fits)⟩

end Follows

open Guarded (lift)

namespace LossModel

def guardedBegins (m : LossModel) (g : Random.Generator) : Guarded (Bool × Random.Generator) :=
  if 0.0 < m.probability then lift (Random.checkedChance m.probability g) else .ok (false, g)

theorem guardedBegins_eq {m : LossModel} (h : m.Valid) (g : Random.Generator) :
    m.guardedBegins g = .ok (m.begins g) := by
  rw [guardedBegins, begins, Random.checkedChance, if_pos h.1]
  split <;> rfl

end LossModel

namespace LatencyModel

open MeshNet.Random in
def guardedSample (m : LatencyModel) (g : Generator) : Guarded (UInt32 × Generator) :=
  if m.max ≤ m.min then .ok (m.min, g) else do
    let difference ← UInt32.ofNat <$> Guarded.difference m.max.toNat m.min.toNat
    let low := m.min.toFloat
    let width := difference.toFloat
    let draw : Draw UInt32 :=
      match m.distribution with
      | .uniform => between m.min m.max
      | .normal => return m.nearest (low + width / 2.0 + width / 6.0 * (← normal).getD 0.0)
      | .exponential => return m.nearest (low + (← exponential).getD 0.0 * (1.0 / (2.0 / width)))
    return draw g

theorem guardedSample_eq (m : LatencyModel) (g : Random.Generator) :
    m.guardedSample g = .ok (m.sample g) := by
  rw [guardedSample, sample]
  split
  · rfl
  · next wide =>
    rw [Guarded.difference_words (UInt32.le_of_lt (UInt32.not_le.mp wide))]
    rfl

end LatencyModel

namespace Conditions

def guardedLatency (c : Conditions) (l : Link) : Guarded (UInt32 × Conditions) := do
  let (latency, generator) ← (c.latencyFor l).val.guardedSample c.source.generator
  return (latency, { c with source := { c.source with generator } })

def guardedLoss (c : Conditions) (l : Link) : Guarded (Bool × Conditions) := do
  let m := (c.lossFor l).val
  let draw : Guarded (Bool × Conditions) := do
    let (lost, generator) ← m.guardedBegins c.source.generator
    return (lost, { c with source := { c.source with generator } })
  if m.burstMode then
    match c.bursts[l]? with
    | some left =>
      let rest ← UInt32.ofNat <$> Guarded.difference left.toNat (1 : UInt32).toNat
      return (true, { c with
        bursts := if 0 < rest then c.bursts.insert l rest else c.bursts.erase l })
    | none =>
      let (lost, c) ← draw
      return (lost, if lost then c.startBurst l m else c)
  else
    let (lost, c) ← draw
    return (lost, { c with bursts := c.bursts.erase l })

def guardedDrop (c : Conditions) (cuts : Cuts) (l : Link) : Guarded (Bool × Conditions) :=
  if cuts.active l then c.guardedLoss l else .ok (true, c)

def guardedFate (c : Conditions) (cuts : Cuts) (l : Link) :
    Guarded (Option UInt32 × Conditions) := do
  let (dropped, c) ← c.guardedDrop cuts l
  if dropped then return (none, c)
  else
    let (latency, c) ← c.guardedLatency l
    return (some latency, c)

theorem guardedLatency_eq (c : Conditions) (l : Link) :
    c.guardedLatency l = .ok (c.sampleLatency l) := by
  rw [guardedLatency, LatencyModel.guardedSample_eq]
  rfl

theorem guardedLoss_eq {c : Conditions} {l : Link} (h : c.Tracked l) :
    c.guardedLoss l = .ok (c.sampleLoss l) := by
  rw [guardedLoss, sampleLoss]
  simp only [LossModel.guardedBegins_eq (c.lossFor l).property]
  split
  · cases hb : c.bursts[l]? with
    | none => rfl
    | some left =>
      obtain ⟨some_left, -⟩ := h left hb
      have one : (1 : UInt32) ≤ left := by grind
      have more : 0 < left - 1 ↔ 1 < left := by grind
      simp only [Guarded.difference_words one, Guarded.ok_bind, continueBurst, more]
      rfl
  · rfl

theorem guardedFate_eq {c : Conditions} {l : Link} (h : c.Tracked l) (cuts : Cuts) :
    c.guardedFate cuts l = .ok (c.sampleFate cuts l) := by
  have drop : c.guardedDrop cuts l = .ok (c.sampleDrop cuts l) := by
    rw [guardedDrop, guardedLoss_eq h, sampleDrop]
    split <;> rfl
  rw [guardedFate, drop, sampleFate]
  cases c.sampleDrop cuts l with
  | mk dropped c =>
    cases dropped with
    | true => rfl
    | false =>
      simp only [Guarded.ok_bind, guardedLatency_eq]
      rfl

def AllTracked (c : Conditions) : Prop := ∀ l, c.Tracked l

theorem AllTracked.sampleFate {c : Conditions} (h : c.AllTracked) (cuts : Cuts) (l : Link) :
    (c.sampleFate cuts l).2.AllTracked := by
  have dropped : (c.sampleDrop cuts l).2.AllTracked := by
    rw [sampleDrop]
    split
    · exact fun k => tracked_step (h k) (.sampleLoss l)
    · exact h
  rw [Conditions.sampleFate]
  revert dropped
  obtain ⟨_ | _, rest⟩ := c.sampleDrop cuts l
  · exact fun dropped k => tracked_step (dropped k) (.sampleLatency l)
  · exact id

theorem AllTracked.degraded {c : Conditions} (h : c.AllTracked) (l : Link) (latency : UInt32)
    (m : {m : LossModel // m.Valid}) : (c.degraded l latency m).AllTracked := by
  intro k
  by_cases ends : l = k ∨ l.reverse = k
  · refine tracked_of_bursts ?_
    rcases ends with rfl | rfl
    · simp [Conditions.degraded]
    · simp [Conditions.degraded]
  · have apart : l ≠ k ∧ l.reverse ≠ k := not_or.mp ends
    have bursts : (c.degraded l latency m).bursts[k]? = c.bursts[k]? := by
      simp [Conditions.degraded, Std.ExtTreeMap.getElem?_erase, apart]
    have model : (c.degraded l latency m).lossFor k = c.lossFor k := by
      simp [Conditions.degraded, lossFor, Std.ExtTreeMap.getElem?_insert, apart]
    rw [Tracked, bursts, model]
    exact h k

end Conditions

end MeshNet
