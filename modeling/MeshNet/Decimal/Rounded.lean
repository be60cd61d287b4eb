

namespace MeshNet.Decimal

inductive Tie where
  | toEven
  | up
deriving DecidableEq, Repr

def roundDiv (tie : Tie) (num den : Nat) : Nat :=
  let q := num / den
  match compare (2 * (num % den)) den, tie with
  | .lt, _ => q
  | .gt, _ => q + 1
  | .eq, .up => q + 1
  | .eq, .toEven => q + q % 2

theorem roundDiv_exact (tie : Tie) (q den : Nat) (h : 0 < den) :
    roundDiv tie (q * den) den = q := by
  have : compare 0 den = .lt := Nat.compare_eq_lt.2 h
  simp [roundDiv, Nat.mul_div_cancel _ h, this]

theorem roundDiv_bounds (tie : Tie) (num den : Nat) (h : 0 < den) :
    2 * (roundDiv tie num den * den) ≤ 2 * num + den ∧
      2 * num ≤ 2 * (roundDiv tie num den * den) + den := by
  have hd := Nat.div_add_mod num den
  have hm := Nat.mod_lt num h
  rw [Nat.mul_comm] at hd
  have hs : (num / den + 1) * den = num / den * den + den := Nat.succ_mul ..
  simp only [roundDiv]
  split <;> rename_i hc
  · have := Nat.compare_eq_lt.1 hc; omega
  · have := Nat.compare_eq_gt.1 hc; omega
  · have := Nat.compare_eq_eq.1 hc; omega
  · have := Nat.compare_eq_eq.1 hc
    rcases Nat.mod_two_eq_zero_or_one (num / den) with he | he <;> rw [he]
    · rw [Nat.add_zero]; omega
    · omega

end MeshNet.Decimal
