import Mathlib
import MeshNet.Random.Draw

namespace MeshNet.Random

open Float.Model

theorem compare_unpacked_swap (a b : UnpackedFloat) :
    b.compare a = (a.compare b).map Ordering.swap := by
  cases a with
  | notANumber => cases b <;> simp [UnpackedFloat.compare]
  | infinity s =>
    cases b with
    | notANumber => simp [UnpackedFloat.compare]
    | infinity t => cases s <;> cases t <;> rfl
    | zero t => cases s <;> rfl
    | finite t n e hn => cases s <;> rfl
  | zero s =>
    cases b with
    | notANumber => simp [UnpackedFloat.compare]
    | infinity t => cases t <;> rfl
    | zero t => rfl
    | finite t n e hn => cases t <;> rfl
  | finite s m d hm =>
    cases b with
    | notANumber => simp [UnpackedFloat.compare]
    | infinity t => cases t <;> rfl
    | zero t => cases s <;> rfl
    | finite t n e hn =>
      have hs : ((compare d e).then (compare m n)).swap = (compare e d).then (compare n m) := by
        rw [Ordering.swap_then, ← Std.OrientedCmp.eq_swap, ← Std.OrientedCmp.eq_swap]
      cases s <;> cases t <;> simp only [UnpackedFloat.compare, Option.map_some, hs]
      · rfl
      · rfl

theorem compare_unpacked_eq_none_iff {a b : UnpackedFloat} :
    a.compare b = none ↔ a.isNaN ∨ b.isNaN := by
  cases a with
  | notANumber => simp [UnpackedFloat.compare, UnpackedFloat.isNaN]
  | infinity s =>
    cases b with
    | notANumber => simp [UnpackedFloat.compare, UnpackedFloat.isNaN]
    | _ => cases s <;> simp [UnpackedFloat.compare, UnpackedFloat.isNaN]
  | zero s =>
    cases b with
    | notANumber | zero t => simp [UnpackedFloat.compare, UnpackedFloat.isNaN]
    | _ t => cases t <;> simp [UnpackedFloat.compare, UnpackedFloat.isNaN]
  | finite s m d hm =>
    cases b with
    | notANumber => simp [UnpackedFloat.compare, UnpackedFloat.isNaN]
    | _ t => cases s <;> cases t <;> simp [UnpackedFloat.compare, UnpackedFloat.isNaN]

theorem not_le_iff {a b : Float} : ¬ a ≤ b ↔ a.isNaN ∨ b.isNaN ∨ b < a := by
  have hle : a ≤ b ↔ (a.toModel.unpack.compare b.toModel.unpack).any (·.isLE) = true :=
    decide_eq_true_iff
  have hlt : b < a ↔ (b.toModel.unpack.compare a.toModel.unpack == some .lt) = true :=
    decide_eq_true_iff
  have hnan := compare_unpacked_eq_none_iff (a := a.toModel.unpack) (b := b.toModel.unpack)
  rw [hle, hlt, compare_unpacked_swap a.toModel.unpack, ← or_assoc]
  change _ ↔ (a.toModel.unpack.isNaN = true ∨ b.toModel.unpack.isNaN = true) ∨ _
  rw [← hnan]
  cases a.toModel.unpack.compare b.toModel.unpack with
  | none => simp
  | some o => cases o <;> decide

theorem not_lt_of_beq {a b : Float} (h : (a == b) = true) : ¬ b < a := by
  have heq : (a.toModel.unpack.compare b.toModel.unpack == some .eq) = true := h
  have hlt : b < a ↔ (b.toModel.unpack.compare a.toModel.unpack == some .lt) = true :=
    decide_eq_true_iff
  rw [hlt, compare_unpacked_swap a.toModel.unpack, eq_of_beq heq]
  decide

theorem not_isProbability_iff {p : Float} :
    ¬ IsProbability p ↔ p.isNaN ∨ p < 0.0 ∨ 1.0 < p := by
  have h0 : (0.0 : Float).isNaN = false := by decide
  have h1 : (1.0 : Float).isNaN = false := by decide
  rw [IsProbability, Classical.not_and_iff_not_or_not, not_le_iff, not_le_iff, h0, h1]
  simp only [Bool.false_eq_true, false_or]
  rw [or_assoc, or_left_comm (a := p < 0.0), ← or_assoc, or_self]

end MeshNet.Random
