import MeshNet.Timeline

namespace MeshNet

structure Roll (α : Type) where
  waiting : List (Waiting α) := []
  arrivals : Nat := 0

namespace Roll

variable {α : Type}

@[ext] theorem ext {r s : Roll α} (h : r.waiting = s.waiting) (ha : r.arrivals = s.arrivals) :
    r = s := by
  cases r; cases s; cases h; cases ha; rfl

def add (r : Roll α) (t : Time) (a : α) : Roll α where
  waiting := r.waiting ++ [⟨t, r.arrivals, a⟩]
  arrivals := r.arrivals + 1

def due (r : Roll α) (now : Time) : List (Waiting α) :=
  (r.waiting.filter (·.time ≤ now)).mergeSort (·.time ≤ ·.time)

def after (r : Roll α) (now : Time) : Roll α :=
  { r with waiting := r.waiting.filter (now < ·.time) }

def clear (r : Roll α) : Roll α := { r with waiting := [] }

def next? (r : Roll α) : Option Time := (r.waiting.map (·.time)).min?

theorem due_append_after_perm (r : Roll α) (now : Time) :
    (r.due now ++ (r.after now).waiting).Perm r.waiting := by
  have hn : (r.after now).waiting = r.waiting.filter fun w => !decide (w.time ≤ now) := by
    refine List.filter_congr fun w _ => ?_
    rw [← decide_not, decide_eq_decide, UInt64.not_le]
  rw [hn]
  exact ((List.mergeSort_perm _ _).append_right _).trans (List.filter_append_perm _ _)

end Roll

namespace Waiting

variable {α : Type}

def enumerate (first : Nat) : List (Time × α) → List (Waiting α)
  | [] => []
  | e :: es => ⟨e.1, first, e.2⟩ :: enumerate (first + 1) es

theorem enumerate_append (first : Nat) (es fs : List (Time × α)) :
    enumerate first (es ++ fs) = enumerate first es ++ enumerate (first + es.length) fs := by
  induction es generalizing first with
  | nil => rfl
  | cons e es ih =>
    rw [List.cons_append, enumerate, ih, enumerate, List.cons_append, List.length_cons,
      Nat.add_right_comm, Nat.add_assoc]

theorem le_number_of_mem_enumerate {first : Nat} {es : List (Time × α)} {w : Waiting α}
    (h : w ∈ enumerate first es) : first ≤ w.number := by
  induction es generalizing first with
  | nil => cases h
  | cons e es ih =>
    rcases List.mem_cons.1 h with rfl | h
    · exact Nat.le_refl _
    · exact Nat.le_of_succ_le (ih h)

theorem enumerate_distinct (first : Nat) (es : List (Time × α)) :
    (enumerate first es).Pairwise (·.number ≠ ·.number) := by
  induction es generalizing first with
  | nil => exact .nil
  | cons e es ih =>
    refine .cons (fun w hw => ?_) (ih (first + 1))
    exact Nat.ne_of_lt (le_number_of_mem_enumerate hw)

theorem distinct_of_perm_enumerate {first : Nat} {es : List (Time × α)} {ws : List (Waiting α)}
    (h : ws.Perm (enumerate first es)) : ws.Pairwise (·.number ≠ ·.number) :=
  (h.pairwise_iff fun {_ _} hn => hn.symm).2 (enumerate_distinct first es)

theorem eq_of_perm_of_before {as bs : List (Waiting α)} (h : as.Perm bs)
    (ha : as.Pairwise Waiting.Before) (hb : bs.Pairwise Waiting.Before) : as = bs := by
  refine List.Perm.eq_of_pairwise (fun a b _ _ hab hba => ?_) ha hb h
  have hn : a.Before a := hab.trans hba
  rw [before_iff] at hn
  rcases hn with hn | ⟨-, hn⟩
  · exact absurd hn (UInt64.lt_irrefl _)
  · exact absurd hn (Nat.lt_irrefl _)

theorem eq_of_perm_of_number {as bs : List (Waiting α)} (h : as.Perm bs)
    (ha : as.Pairwise (·.number < ·.number)) (hb : bs.Pairwise (·.number < ·.number)) :
    as = bs :=
  List.Perm.eq_of_pairwise
    (fun _ _ _ _ hab hba => absurd (Nat.lt_trans hab hba) (Nat.lt_irrefl _)) ha hb h

theorem eq_of_number_eq {ws : List (Waiting α)} (h : ws.Pairwise (·.number < ·.number))
    {a b : Waiting α} (ha : a ∈ ws) (hb : b ∈ ws) (hab : a.number = b.number) : a = b := by
  induction ws with
  | nil => cases ha
  | cons w ws ih =>
    rw [List.pairwise_cons] at h
    rw [List.mem_cons] at ha hb
    rcases ha with rfl | ha <;> rcases hb with rfl | hb
    · rfl
    · exact absurd hab (Nat.ne_of_lt (h.1 b hb))
    · exact absurd hab.symm (Nat.ne_of_lt (h.1 a ha))
    · exact ih h.2 ha hb

theorem pair_sublist_of_number {ws : List (Waiting α)} (h : ws.Pairwise (·.number < ·.number))
    {a b : Waiting α} (ha : a ∈ ws) (hb : b ∈ ws) (hab : a.number < b.number) :
    [a, b].Sublist ws := by
  obtain ⟨before, behind, rfl⟩ := List.append_of_mem ha
  rw [List.pairwise_append, List.pairwise_cons] at h
  rcases List.mem_append.1 hb with hb | hb
  · have hba : b.number < a.number := h.2.2 b hb a (List.mem_cons_self ..)
    exact absurd (Nat.lt_trans hab hba) (Nat.lt_irrefl _)
  · rcases List.mem_cons.1 hb with rfl | hb
    · exact absurd hab (Nat.lt_irrefl _)
    · exact ((List.singleton_sublist.2 hb).cons_cons a).trans (List.sublist_append_right before _)

theorem not_pair_sublist_swap {ws : List (Waiting α)} (h : ws.Nodup) {a b : Waiting α}
    (hab : [a, b].Sublist ws) : ¬ [b, a].Sublist ws := by
  intro hba
  induction ws with
  | nil => cases hab
  | cons w ws ih =>
    rw [List.nodup_cons] at h
    cases hab with
    | cons _ hab =>
      cases hba with
      | cons _ hba => exact ih h.2 hab hba
      | cons_cons _ _ => exact h.1 (hab.subset (by simp))
    | cons_cons _ hab =>
      cases hba with
      | cons _ hba => exact h.1 (hba.subset (by simp))
      | cons_cons _ _ => exact h.1 (List.singleton_sublist.1 hab)

theorem push_of_number_lt {w : Waiting α} {ws : List (Waiting α)}
    (below : ∀ x ∈ ws, x.number < w.number) :
    push w ws = ws.takeWhile (·.time ≤ w.time) ++ w :: ws.dropWhile (·.time ≤ w.time) := by
  induction ws with
  | nil => rfl
  | cons x ws ih =>
    rw [List.forall_mem_cons] at below
    have later : decide (x.Before w) = decide (x.time ≤ w.time) :=
      decide_eq_decide.2 (before_iff_of_number_lt below.1)
    have ih := ih below.2
    rw [push] at ih ⊢
    rw [List.takeWhile_cons, List.dropWhile_cons, List.takeWhile_cons, List.dropWhile_cons, later]
    split
    · rw [List.cons_append, ih, List.cons_append]
    · rfl

theorem pairwise_before_mergeSort {ws : List (Waiting α)}
    (h : ws.Pairwise (·.number < ·.number)) :
    (ws.mergeSort (·.time ≤ ·.time)).Pairwise Waiting.Before := by
  have trans : ∀ a b c : Waiting α, decide (a.time ≤ b.time) → decide (b.time ≤ c.time) →
      decide (a.time ≤ c.time) := by
    intro a b c hab hbc
    simp only [decide_eq_true_eq] at *
    exact UInt64.le_trans hab hbc
  have total : ∀ a b : Waiting α, decide (a.time ≤ b.time) || decide (b.time ≤ a.time) := by
    intro a b
    simpa using UInt64.le_total a.time b.time
  have nodup : (ws.mergeSort (·.time ≤ ·.time)).Nodup := by
    rw [(List.mergeSort_perm ws _).nodup_iff]
    refine h.imp fun {a b} hab => ?_
    rintro rfl
    exact Nat.lt_irrefl _ hab
  rw [List.pairwise_iff_forall_sublist]
  intro a b hab
  have hle : a.time ≤ b.time := by
    have hp := List.pairwise_iff_forall_sublist.1 (List.pairwise_mergeSort trans total ws) hab
    simpa using hp
  rw [before_iff]
  rcases UInt64.lt_or_eq_of_le hle with hlt | he
  · exact .inl hlt
  · refine .inr ⟨he, Nat.lt_of_not_le fun hn => ?_⟩
    have ha : a ∈ ws := List.mem_mergeSort.1 (hab.subset (by simp))
    have hb : b ∈ ws := List.mem_mergeSort.1 (hab.subset (by simp))
    have hne : a ≠ b := by
      rintro rfl
      exact List.nodup_cons.1 (nodup.sublist hab) |>.1 (by simp)
    rcases Nat.lt_or_eq_of_le hn with hn | hn
    · -- The order of arrival is the other one, and the sort keeps it.
      have hba := pair_sublist_of_number h hb ha hn
      have hba := List.pair_sublist_mergeSort trans total (by simp [he]) hba
      exact not_pair_sublist_swap nodup hab hba
    · exact hne (eq_of_number_eq h ha hb hn.symm)

end Waiting

namespace Timeline

variable {α : Type}

def roll (q : Timeline α) : Roll α where
  waiting := q.queue.mergeSort (·.number ≤ ·.number)
  arrivals := q.arrivals

theorem waiting_perm (q : Timeline α) : q.roll.waiting.Perm q.queue := List.mergeSort_perm _ _

theorem waiting_ascending (q : Timeline α) : q.roll.waiting.Pairwise (·.number < ·.number) := by
  have hle : q.roll.waiting.Pairwise fun a b => decide (a.number ≤ b.number) := by
    refine List.pairwise_mergeSort ?_ ?_ q.queue
    · intro a b c hab hbc
      simp only [decide_eq_true_eq] at *
      exact Nat.le_trans hab hbc
    · intro a b
      simpa using Nat.le_total a.number b.number
  have hne : q.roll.waiting.Pairwise fun a b => a.number ≠ b.number :=
    (q.waiting_perm.pairwise_iff fun {a b} hab => hab.symm).2 q.distinct
  refine (hle.and hne).imp fun {a b} hab => ?_
  exact Nat.lt_of_le_of_ne (by simpa using hab.1) hab.2

theorem number_lt_arrivals (q : Timeline α) {w : Waiting α} (hw : w ∈ q.roll.waiting) :
    w.number < q.arrivals := q.numbered w (q.waiting_perm.subset hw)

theorem eq_mergeSort_of_perm {qs ws : List (Waiting α)} (h : qs.Perm ws)
    (hq : qs.Pairwise Waiting.Before) (hw : ws.Pairwise (·.number < ·.number)) :
    qs = ws.mergeSort (·.time ≤ ·.time) :=
  Waiting.eq_of_perm_of_before (h.trans (List.mergeSort_perm ws _).symm) hq
    (Waiting.pairwise_before_mergeSort hw)

theorem queue_eq (q : Timeline α) : q.queue = q.roll.waiting.mergeSort (·.time ≤ ·.time) :=
  eq_mergeSort_of_perm q.waiting_perm.symm q.sorted q.waiting_ascending

theorem takeWhile_eq_filter {ws : List (Waiting α)} (h : ws.Pairwise Waiting.Before) (now : Time) :
    ws.takeWhile (·.time ≤ now) = ws.filter (·.time ≤ now) := by
  induction ws with
  | nil => rfl
  | cons w ws ih =>
    rw [List.pairwise_cons] at h
    rw [List.takeWhile_cons, List.filter_cons, ih h.2]
    split
    · rfl
    · next hw =>
      symm
      rw [List.filter_eq_nil_iff]
      intro x hx
      have hwx : w.time ≤ x.time := (h.1 x hx).time_le
      have hw : now < w.time := by simpa using hw
      simpa using UInt64.lt_of_lt_of_le hw hwx

theorem dropWhile_eq_filter {ws : List (Waiting α)} (h : ws.Pairwise Waiting.Before) (now : Time) :
    ws.dropWhile (·.time ≤ now) = ws.filter (now < ·.time) := by
  induction ws with
  | nil => rfl
  | cons w ws ih =>
    rw [List.pairwise_cons] at h
    rw [List.dropWhile_cons]
    split
    · next hw =>
      have hw : ¬ now < w.time := by simpa using hw
      rw [List.filter_cons_of_neg (by simpa using hw), ih h.2]
    · next hw =>
      have hw : now < w.time := by simpa using hw
      symm
      rw [List.filter_eq_self]
      intro x hx
      rcases List.mem_cons.1 hx with rfl | hx
      · simpa using hw
      · simpa using UInt64.lt_of_lt_of_le hw (h.1 x hx).time_le

theorem ready_eq_filter (q : Timeline α) (now : Time) :
    q.ready now = q.queue.filter (·.time ≤ now) := takeWhile_eq_filter q.sorted now

theorem queue_after_eq_filter (q : Timeline α) (now : Time) :
    (q.after now).queue = q.queue.filter (now < ·.time) := dropWhile_eq_filter q.sorted now

theorem queue_insert (q : Timeline α) (t : Time) (a : α) :
    (q.insert t a).queue = q.ready t ++ ⟨t, q.arrivals, a⟩ :: (q.after t).queue :=
  Waiting.push_of_number_lt q.numbered

theorem time_le_of_mem_ready {q : Timeline α} {now : Time} {w : Waiting α} (h : w ∈ q.ready now) :
    w.time ≤ now := by
  simpa using List.all_eq_true.1 List.all_takeWhile w h

theorem ready_append_ready_after (q : Timeline α) {t u : Time} (h : t ≤ u) :
    q.ready t ++ (q.after t).ready u = q.ready u := by
  have ht : ∀ w ∈ q.ready t, decide (w.time ≤ u) = true := fun w hw => by
    simpa using UInt64.le_trans (time_le_of_mem_ready hw) h
  conv => rhs; rw [ready, ← q.ready_append_after t]
  exact (List.takeWhile_append_of_pos ht).symm

theorem after_after (q : Timeline α) {t u : Time} (h : t ≤ u) : (q.after t).after u = q.after u := by
  have ht : ∀ w ∈ q.ready t, decide (w.time ≤ u) = true := fun w hw => by
    simpa using UInt64.le_trans (time_le_of_mem_ready hw) h
  refine Timeline.ext ?_ rfl
  change _ = q.queue.dropWhile (·.time ≤ u)
  rw [← q.ready_append_after t, List.dropWhile_append_of_pos ht]
  rfl

@[simp] theorem roll_empty : (∅ : Timeline α).roll = {} :=
  Roll.ext (by simp [roll]) rfl

@[simp] theorem roll_insert (q : Timeline α) (t : Time) (a : α) :
    (q.insert t a).roll = q.roll.add t a := by
  refine Roll.ext (Waiting.eq_of_perm_of_number ?_ (waiting_ascending _) ?_) rfl
  · refine (waiting_perm _).trans ((q.queue_insert_perm t a).trans ?_)
    refine (q.waiting_perm.symm.cons _).trans ?_
    exact (List.perm_append_singleton _ _).symm
  · rw [Roll.add, List.pairwise_append]
    refine ⟨q.waiting_ascending, List.pairwise_singleton .., fun w hw x hx => ?_⟩
    obtain rfl := List.mem_singleton.1 hx
    exact q.number_lt_arrivals hw

theorem ready_eq_due (q : Timeline α) (now : Time) : q.ready now = q.roll.due now := by
  refine eq_mergeSort_of_perm ?_ (q.sorted.sublist (List.takeWhile_sublist _))
    (q.waiting_ascending.filter _)
  rw [ready_eq_filter]
  exact (q.waiting_perm.filter _).symm

@[simp] theorem roll_after (q : Timeline α) (now : Time) :
    (q.after now).roll = q.roll.after now := by
  refine Roll.ext (Waiting.eq_of_perm_of_number ?_ (waiting_ascending _)
    (q.waiting_ascending.filter _)) rfl
  refine (waiting_perm _).trans ?_
  rw [queue_after_eq_filter]
  exact (q.waiting_perm.filter _).symm

@[simp] theorem roll_clear (q : Timeline α) : q.clear.roll = q.roll.clear :=
  Roll.ext (by simp [roll, Roll.clear]) rfl

theorem next?_eq (q : Timeline α) : q.next? = q.roll.next? := by
  have hp := q.waiting_perm
  have hs := q.sorted
  rw [next?, Roll.next?]
  cases hq : q.queue with
  | nil =>
    rw [hq] at hp
    rw [hp.eq_nil]
    rfl
  | cons w ws =>
    rw [hq] at hp hs
    rw [List.pairwise_cons] at hs
    symm
    rw [List.head?_cons, Option.map_some, List.min?_eq_some_iff]
    refine ⟨List.mem_map_of_mem (hp.symm.subset (List.mem_cons_self ..)), ?_⟩
    intro t ht
    obtain ⟨x, hx, rfl⟩ := List.mem_map.1 ht
    rcases List.mem_cons.1 (hp.subset hx) with rfl | hx
    · exact UInt64.le_refl _
    · exact (hs.1 x hx).time_le

theorem size_eq (q : Timeline α) : q.roll.waiting.length = q.size :=
  q.waiting_perm.length_eq

theorem spec_of_roll_eq {q : Timeline α} {r : Roll α} (h : q.roll = r) :
    q.queue = r.waiting.mergeSort (·.time ≤ ·.time) ∧ q.next? = r.next? ∧
      q.size = r.waiting.length := by
  subst h
  exact ⟨q.queue_eq, q.next?_eq, q.size_eq.symm⟩

end Timeline

end MeshNet
