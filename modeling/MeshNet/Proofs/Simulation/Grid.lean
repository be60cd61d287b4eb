import MeshNet.Simulation

namespace MeshNet.Simulation

def gridTime (stride : UInt64) (last now : Time) (k : Nat) : Nat :=
  min (now.toNat + k * max stride.toNat 1) last.toNat

theorem toNat_nextStep_eq_gridTime (stride : UInt64) {last now : Time} (h : now < last) :
    (nextStep stride last now).toNat = gridTime stride last now 1 := by
  rw [toNat_nextStep stride (Nat.le_of_lt (UInt64.lt_iff_toNat_lt.mp h)), gridTime, Nat.one_mul]

theorem gridTime_nextStep (stride : UInt64) {last now : Time} (h : now < last) (k : Nat) :
    gridTime stride last (nextStep stride last now) k = gridTime stride last now (k + 1) := by
  rw [gridTime, toNat_nextStep_eq_gridTime stride h, gridTime, gridTime, Nat.succ_mul k, Nat.one_mul]
  omega

theorem stepTimes_of_lt (stride : UInt64) {last now : Time} (h : now < last) :
    stepTimes stride last now =
      nextStep stride last now :: stepTimes stride last (nextStep stride last now) := by
  rw [stepTimes, if_pos h]

theorem stepTimes_of_not_lt (stride : UInt64) {last now : Time} (h : ¬ now < last) :
    stepTimes stride last now = [] := by
  rw [stepTimes, if_neg h]

theorem lt_length_stepTimes_iff (stride : UInt64) (last now : Time) (k : Nat) :
    k < (stepTimes stride last now).length ↔ now.toNat + k * max stride.toNat 1 < last.toNat := by
  induction now using stepTimes.induct stride last generalizing k with
  | case1 now h ih =>
    have before : now.toNat < last.toNat := UInt64.lt_iff_toNat_lt.mp h
    rw [stepTimes_of_lt stride h, List.length_cons]
    cases k with
    | zero => simpa using before
    | succ k =>
      rw [Nat.add_lt_add_iff_right, ih, toNat_nextStep_eq_gridTime stride h, gridTime,
        Nat.succ_mul k, Nat.one_mul]
      omega
  | case2 now h =>
    have ended : last.toNat ≤ now.toNat := UInt64.le_iff_toNat_le.mp (UInt64.not_lt.mp h)
    rw [stepTimes_of_not_lt stride h]
    constructor
    · intro hk
      cases hk
    · intro hk
      omega

theorem toNat_getElem_stepTimes (stride : UInt64) (last now : Time) {k : Nat}
    (h : k < (stepTimes stride last now).length) :
    (stepTimes stride last now)[k].toNat = gridTime stride last now (k + 1) := by
  induction now using stepTimes.induct stride last generalizing k with
  | case1 now before ih =>
    simp only [stepTimes_of_lt stride before]
    cases k with
    | zero => exact toNat_nextStep_eq_gridTime stride before
    | succ k => rw [List.getElem_cons_succ, ih, gridTime_nextStep stride before]
  | case2 now ended =>
    rw [stepTimes_of_not_lt stride ended] at h
    cases h

theorem lt_nextStep (stride : UInt64) {last now : Time} (h : now < last) :
    now < nextStep stride last now := by
  have before : now.toNat < last.toNat := UInt64.lt_iff_toNat_lt.mp h
  rw [UInt64.lt_iff_toNat_lt, toNat_nextStep stride (Nat.le_of_lt before)]
  omega

theorem stepTimes_ascending (stride : UInt64) (last now : Time) :
    (now :: stepTimes stride last now).Pairwise (· < ·) := by
  induction now using stepTimes.induct stride last with
  | case1 now h ih =>
    rw [stepTimes_of_lt stride h]
    refine List.pairwise_cons.mpr ⟨fun t ht => ?_, ih⟩
    have first := lt_nextStep stride h
    rcases List.mem_cons.mp ht with rfl | ht
    · exact first
    · exact UInt64.lt_trans first ((List.pairwise_cons.mp ih).1 t ht)
  | case2 now h =>
    rw [stepTimes_of_not_lt stride h]
    exact List.pairwise_singleton _ _

theorem getLast?_stepTimes (stride : UInt64) {last now : Time} (h : now < last) :
    (stepTimes stride last now).getLast? = some last := by
  induction now using stepTimes.induct stride last with
  | case1 now before ih =>
    rw [stepTimes_of_lt stride before]
    by_cases more : nextStep stride last now < last
    · rw [List.getLast?_cons, ih more]
      rfl
    · have most : nextStep stride last now ≤ last := by
        have bound := toNat_nextStep_eq_gridTime stride before
        rw [UInt64.le_iff_toNat_le, bound]
        exact Nat.min_le_right _ _
      have stop : nextStep stride last now = last :=
        UInt64.le_antisymm most (UInt64.not_lt.mp more)
      rw [stop, stepTimes_of_not_lt stride (UInt64.lt_irrefl last)]
      rfl
  | case2 now ended => exact absurd h ended

end MeshNet.Simulation
