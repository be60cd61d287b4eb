import Mathlib
import MeshNet.Firmware.Timer

namespace MeshNet.Timer

def firings (interval : Nat) : Nat → List Nat → List Nat
  | _, [] => []
  | last, t :: ts =>
    if last + interval ≤ t then t :: firings interval t ts else firings interval last ts

variable {interval last t : Nat} {ts : List Nat}

theorem firings_cons_of_le (h : last + interval ≤ t) (ts : List Nat) :
    firings interval last (t :: ts) = t :: firings interval t ts := if_pos h

theorem firings_cons_of_lt (h : t < last + interval) (ts : List Nat) :
    firings interval last (t :: ts) = firings interval last ts := if_neg (Nat.not_le.2 h)

theorem firings_sublist (interval last : Nat) (ts : List Nat) :
    (firings interval last ts).Sublist ts := by
  induction ts generalizing last with
  | nil => exact .slnil
  | cons t ts ih =>
    rw [firings]
    split
    · exact (ih t).cons_cons t
    · exact (ih last).cons t

theorem firings_append (interval last : Nat) (ts us : List Nat) :
    firings interval last (ts ++ us) = firings interval last ts ++
      firings interval ((firings interval last ts).getLastD last) us := by
  induction ts generalizing last with
  | nil => rfl
  | cons t ts ih =>
    rw [List.cons_append]
    rcases Nat.lt_or_ge t (last + interval) with early | due
    · rw [firings_cons_of_lt early, firings_cons_of_lt early, ih]
    · rw [firings_cons_of_le due, firings_cons_of_le due, ih, List.getLastD_cons, List.cons_append]

theorem le_of_mem_firings {u : Nat} (h : u ∈ firings interval last ts) : last + interval ≤ u := by
  induction ts generalizing last with
  | nil => cases h
  | cons t ts ih =>
    rcases Nat.lt_or_ge t (last + interval) with early | due
    · rw [firings_cons_of_lt early] at h
      exact ih h
    · rw [firings_cons_of_le due] at h
      rcases List.mem_cons.1 h with rfl | h
      · exact due
      · have later := ih h
        omega

theorem firings_apart (interval last : Nat) (ts : List Nat) :
    (last :: firings interval last ts).Pairwise fun a b => a + interval ≤ b := by
  refine List.pairwise_cons.2 ⟨fun u hu => le_of_mem_firings hu, ?_⟩
  induction ts generalizing last with
  | nil => exact .nil
  | cons t ts ih =>
    rcases Nat.lt_or_ge t (last + interval) with early | due
    · rw [firings_cons_of_lt early]
      exact ih last
    · rw [firings_cons_of_le due]
      exact .cons (fun u hu => le_of_mem_firings hu) (ih t)

theorem countP_mul_le {us : List Nat} (t : Nat)
    (apart : (last :: us).Pairwise fun a b => a + interval ≤ b) :
    us.countP (· ≤ t) * interval ≤ t - last := by
  induction us generalizing last with
  | nil => simp
  | cons u us ih =>
    rw [List.pairwise_cons] at apart
    have rest := ih apart.2
    have gap := apart.1 u (List.mem_cons_self ..)
    by_cases reached : u ≤ t
    · rw [List.countP_cons_of_pos (by simpa using reached), Nat.succ_mul]
      omega
    · rw [List.countP_cons_of_neg (by simpa using reached)]
      omega

theorem countP_firings_le (some_interval : 0 < interval) (last : Nat) (ts : List Nat) (t : Nat) :
    (firings interval last ts).countP (· ≤ t) ≤ (t - last) / interval :=
  (Nat.le_div_iff_mul_le some_interval).2 (countP_mul_le t (firings_apart interval last ts))

theorem countP_firings_of_multiples (some_interval : 0 < interval) {t : Nat}
    (ordered : ts.Pairwise (· ≤ ·))
    (multiples : ∀ j, 0 < j → last + j * interval ≤ t → last + j * interval ∈ ts) :
    (firings interval last ts).countP (· ≤ t) = (t - last) / interval := by
  induction ts generalizing last with
  | nil =>
    have early : t - last < interval := by
      by_contra late
      exact List.not_mem_nil (multiples 1 Nat.one_pos (by omega))
    rw [Nat.div_eq_of_lt early]
    rfl
  | cons u us ih =>
    rw [List.pairwise_cons] at ordered
    have soon (j : Nat) (hj : 0 < j) : interval ≤ j * interval := Nat.le_mul_of_pos_left _ hj
    rcases Nat.lt_or_ge u (last + interval) with early | due
    · rw [firings_cons_of_lt early]
      refine ih ordered.2 fun j hj reached => ?_
      refine (List.mem_cons.1 (multiples j hj reached)).resolve_left fun same => ?_
      have later := soon j hj
      omega
    · rcases Nat.lt_or_ge t (last + interval) with short | long
      · have none_due := countP_firings_le some_interval last (u :: us) t
        rw [Nat.div_eq_of_lt (by omega)] at none_due ⊢
        exact Nat.le_zero.1 none_due
      · -- The first look that finds the timer due comes at the first multiple, since that is one.
        obtain rfl : u = last + interval := by
          rcases List.mem_cons.1 (multiples 1 Nat.one_pos (by omega)) with first | further
          · omega
          · have later := ordered.1 _ further
            omega
        rw [firings_cons_of_le due, List.countP_cons_of_pos (by simpa using long),
          ih ordered.2 fun j hj reached => ?_]
        · rw [← Nat.add_div_right _ some_interval]
          congr 1
          omega
        · have next := multiples (j + 1) (Nat.succ_pos j) (by rw [Nat.succ_mul]; omega)
          rw [Nat.succ_mul, Nat.add_comm (j * interval), ← Nat.add_assoc] at next
          refine (List.mem_cons.1 next).resolve_left fun same => ?_
          have later := soon j hj
          omega

structure KeepsInterval (interval start : Nat) (looks fired : List Nat) : Prop where
  due : ∀ before t after, looks = before ++ t :: after →
    ∃ earlier later, earlier.Sublist before ∧ later.Sublist after ∧
      fired = earlier ++ if earlier.getLastD start + interval ≤ t then t :: later else later
  apart : (start :: fired).Pairwise fun a b => a + interval ≤ b
  bounded : ∀ t, fired.countP (· ≤ t) ≤ (t - start) / interval
  complete : ∀ d t, d ∣ interval →
    (∀ j, 0 < j → start + j * d ≤ t → start + j * d ∈ looks) →
    fired.countP (· ≤ t) = (t - start) / interval

theorem keepsInterval (some_interval : 0 < interval) (start : Nat) (ordered : ts.Pairwise (· ≤ ·)) :
    KeepsInterval interval start ts (firings interval start ts) where
  due before t after := by
    rintro rfl
    have earlier := firings_sublist interval start before
    refine ⟨firings interval start before, ?_⟩
    rw [firings_append]
    split
    · next due =>
      rw [firings_cons_of_le due]
      exact ⟨_, earlier, firings_sublist interval t after, rfl⟩
    · next early =>
      rw [firings_cons_of_lt (Nat.lt_of_not_le early)]
      exact ⟨_, earlier, firings_sublist .., rfl⟩
  apart := firings_apart interval start ts
  bounded := countP_firings_le some_interval start ts
  complete d t divides looked := by
    obtain ⟨k, rfl⟩ := divides
    refine countP_firings_of_multiples some_interval ordered fun j hj reached => ?_
    have some_multiple : 0 < j * k := Nat.mul_pos hj (Nat.pos_of_mul_pos_left some_interval)
    rw [Nat.mul_comm d k, ← Nat.mul_assoc] at reached ⊢
    exact looked (j * k) some_multiple reached

variable {fault : Fault}

structure Waits (t : Timer) (interval last : Nat) : Prop where
  every : t.interval.toNat = interval
  deadline : t.deadline.toNat = last + interval

theorem due_iff {t : Timer} (h : t.Waits interval last) {now : Time} :
    t.due now = true ↔ last + interval ≤ now.toNat := by
  rw [due, decide_eq_true_iff, UInt64.le_iff_toNat_le, h.deadline]

theorem waits_of_rearm {t u : Timer} {now : Time} (h : t.rearm now = .ok u) :
    u.Waits t.interval.toNat now.toNat := by
  obtain ⟨kept, deadline⟩ := deadline_of_rearm h
  exact ⟨by rw [kept], deadline⟩

theorem rearm_eq_error {t : Timer} {now : Time} :
    t.rearm now = .error fault ↔
      fault = .deadlineOverflow ∧ 2 ^ 64 ≤ now.toNat + t.interval.toNat := by
  have bound : Time.last + 1 = 2 ^ 64 := rfl
  rw [rearm, Time.advance?]
  split
  · next fits => exact ⟨nofun, fun ⟨_, out⟩ => by omega⟩
  · next out =>
    refine ⟨fun h => ?_, fun ⟨same, _⟩ => same ▸ rfl⟩
    cases h
    exact ⟨rfl, by omega⟩

theorem look_cases {α : Type} {t : Timer} {now : Time} {fire : Timer → α} {rest a : α}
    (h : (if t.due now then do return fire (← t.rearm now) else return rest : Checked α) = .ok a)
    (waits : t.Waits interval last) :
    if last + interval ≤ now.toNat then ∃ u : Timer, u.Waits interval now.toNat ∧ a = fire u
    else a = rest := by
  split at h
  · next due =>
    obtain ⟨u, rearmed, h⟩ := Checked.bind_eq_ok.1 h
    cases h
    have again := waits_of_rearm rearmed
    rw [waits.every] at again
    rw [if_pos ((due_iff waits).1 due)]
    exact ⟨u, again, rfl⟩
  · next early =>
    cases h
    rw [if_neg fun due => early ((due_iff waits).2 due)]

theorem look_eq_error {α : Type} {t : Timer} {now : Time} {fire : Timer → α} {rest : α} :
    (if t.due now then do return fire (← t.rearm now) else return rest : Checked α) = .error fault ↔
      fault = .deadlineOverflow ∧ t.due now = true ∧ 2 ^ 64 ≤ now.toNat + t.interval.toNat := by
  split
  · next due => rw [← map_eq_pure_bind, Checked.map_eq_error, rearm_eq_error, and_iff_right due]
  · next early => exact ⟨nofun, fun ⟨_, due, _⟩ => absurd due early⟩

theorem waits_of_start {interval : UInt64} {now : Time} {t : Timer} (h : start interval now = .ok t) :
    t.Waits (max interval.toNat 1) now.toNat := by
  have waits := waits_of_rearm h
  rwa [Time.toNat_max] at waits

theorem start_eq_error {interval : UInt64} {now : Time} :
    start interval now = .error fault ↔
      fault = .deadlineOverflow ∧ 2 ^ 64 ≤ now.toNat + max interval.toNat 1 := by
  rw [start, rearm_eq_error, Time.toNat_max]
  rfl

end MeshNet.Timer
