

namespace MeshNet

abbrev Time := UInt64

namespace Time

def last : Nat := UInt64.size - 1

def advance (t : Time) (d : UInt64) : Time :=
  .ofNat (min (t.toNat + d.toNat) last)

def advance? (t : Time) (d : UInt64) : Option Time :=
  if t.toNat + d.toNat ≤ last then some (.ofNat (t.toNat + d.toNat)) else none

def elapsed (start now : Time) : UInt64 :=
  .ofNat (now.toNat - start.toNat)

theorem toNat_min (t u : Time) : (min t u).toNat = min t.toNat u.toNat := by
  rw [show min t u = if t ≤ u then t else u from rfl, apply_ite UInt64.toNat]
  exact (Nat.min_def ..).symm

theorem toNat_max (t u : Time) : (max t u).toNat = max t.toNat u.toNat := by
  rw [show max t u = if t ≤ u then u else t from rfl, apply_ite UInt64.toNat]
  exact (Nat.max_def ..).symm

theorem max_eq_right {t u : Time} (h : t ≤ u) : max t u = u := by
  rw [← UInt64.toNat_inj, toNat_max]
  exact Nat.max_eq_right (UInt64.le_iff_toNat_le.mp h)

theorem max_self (t : Time) : max t t = t := max_eq_right (UInt64.le_refl t)

theorem le_max_left (t u : Time) : t ≤ max t u := by
  rw [UInt64.le_iff_toNat_le, toNat_max]
  exact Nat.le_max_left _ _

theorem toNat_advance (t : Time) (d : UInt64) :
    (advance t d).toNat = min (t.toNat + d.toNat) last := by
  have := Nat.min_le_right (t.toNat + d.toNat) last
  rw [advance, UInt64.toNat_ofNat', Nat.mod_eq_of_lt]
  exact Nat.lt_of_le_of_lt this (by decide)

theorem toNat_elapsed (start now : Time) :
    (elapsed start now).toNat = now.toNat - start.toNat := by
  have := now.toNat_lt
  rw [elapsed, UInt64.toNat_ofNat', Nat.mod_eq_of_lt]
  omega

theorem advance?_eq_some_iff {t u : Time} {d : UInt64} :
    advance? t d = some u ↔ u.toNat = t.toNat + d.toNat := by
  have hu := u.toNat_lt
  have hl : last = 2 ^ 64 - 1 := rfl
  unfold advance?
  split
  · rw [Option.some.injEq, ← UInt64.toNat_inj, UInt64.toNat_ofNat', Nat.mod_eq_of_lt (by omega)]
    exact eq_comm
  · constructor
    · intro h; cases h
    · intro h; omega

end Time

end MeshNet
