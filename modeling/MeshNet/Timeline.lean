import MeshNet.Time

namespace MeshNet

structure Waiting (α : Type) where
  time : Time
  number : Nat
  item : α
deriving DecidableEq, Repr

namespace Waiting

variable {α : Type}

/-- Which of two things has the higher priority: the greatest of all comes out next. An earlier time
is greater, and so is a lower number where times agree. -/
def priority (a b : Waiting α) : Ordering :=
  (compare b.time a.time).then (compare b.number a.number)

def Before (a b : Waiting α) : Prop := a.priority b = .gt

instance (a b : Waiting α) : Decidable (a.Before b) := inferInstanceAs (Decidable (_ = _))

def entry (w : Waiting α) : Time × α := (w.time, w.item)

theorem before_iff {a b : Waiting α} :
    a.Before b ↔ a.time < b.time ∨ a.time = b.time ∧ a.number < b.number := by
  rw [Before, priority, Ordering.then_eq_gt, Std.compare_eq_gt, Std.compare_eq_iff_eq,
    Std.compare_eq_gt, eq_comm (a := b.time)]

theorem Before.trans {a b c : Waiting α} (hab : a.Before b) (hbc : b.Before c) : a.Before c := by
  rw [before_iff] at hab hbc ⊢
  rcases hab with hab | ⟨hab, hn⟩
  · rcases hbc with hbc | ⟨hbc, -⟩
    · exact .inl (UInt64.lt_trans hab hbc)
    · exact .inl (hbc ▸ hab)
  · rcases hbc with hbc | ⟨hbc, hm⟩
    · exact .inl (hab ▸ hbc)
    · exact .inr ⟨hab.trans hbc, Nat.lt_trans hn hm⟩

theorem Before.time_le {a b : Waiting α} (h : a.Before b) : a.time ≤ b.time := by
  rcases before_iff.1 h with h | ⟨h, -⟩
  · exact UInt64.le_of_lt h
  · exact h ▸ UInt64.le_refl _

theorem before_iff_of_number_lt {a b : Waiting α} (h : a.number < b.number) :
    a.Before b ↔ a.time ≤ b.time := by
  constructor
  · exact Before.time_le
  · intro ht
    rw [before_iff]
    rcases UInt64.lt_or_eq_of_le ht with ht | ht
    · exact .inl ht
    · exact .inr ⟨ht, h⟩

theorem before_of_not_before {a b : Waiting α} (hn : a.number ≠ b.number) (h : ¬ b.Before a) :
    a.Before b := by
  rcases Nat.lt_or_gt_of_ne hn with hn | hn
  · rw [before_iff] at h
    rw [before_iff_of_number_lt hn]
    exact UInt64.not_lt.1 fun ht => h (.inl ht)
  · rw [before_iff_of_number_lt hn] at h
    exact before_iff.2 (.inl (UInt64.not_le.1 h))

def push (w : Waiting α) (ws : List (Waiting α)) : List (Waiting α) :=
  ws.takeWhile (·.Before w) ++ w :: ws.dropWhile (·.Before w)

theorem push_perm (w : Waiting α) (ws : List (Waiting α)) : (push w ws).Perm (w :: ws) := by
  refine List.perm_middle.trans (List.Perm.cons _ ?_)
  rw [List.takeWhile_append_dropWhile]

theorem before_of_mem_dropWhile {ws : List (Waiting α)} {w x : Waiting α}
    (h : ws.Pairwise Before) (hn : ∀ y ∈ ws, y.number ≠ w.number)
    (hx : x ∈ ws.dropWhile (·.Before w)) : w.Before x := by
  induction ws with
  | nil => cases hx
  | cons y ws ih =>
    rw [List.pairwise_cons] at h
    rw [List.dropWhile_cons] at hx
    split at hx
    · exact ih h.2 (fun z hz => hn z (List.mem_cons_of_mem _ hz)) hx
    · next hy =>
      have hwy : w.Before y :=
        before_of_not_before (hn y (List.mem_cons_self ..)).symm (by simpa using hy)
      rcases List.mem_cons.1 hx with rfl | hx
      · exact hwy
      · exact hwy.trans (h.1 x hx)

theorem pairwise_push {w : Waiting α} {ws : List (Waiting α)} (h : ws.Pairwise Before)
    (hn : ∀ y ∈ ws, y.number ≠ w.number) : (push w ws).Pairwise Before := by
  rw [push, List.pairwise_append, List.pairwise_cons]
  refine ⟨h.sublist (List.takeWhile_sublist _),
    ⟨fun x hx => before_of_mem_dropWhile h hn hx, h.sublist (List.dropWhile_sublist _)⟩,
    fun x hx y hy => ?_⟩
  have hx : x.Before w := by
    simpa using List.all_eq_true.1 (List.all_takeWhile (l := ws)) x hx
  rcases List.mem_cons.1 hy with rfl | hy
  · exact hx
  · exact hx.trans (before_of_mem_dropWhile h hn hy)

end Waiting

structure Timeline (α : Type) where
  queue : List (Waiting α) := []
  /-- How many things have arrived, those that have left again included. -/
  arrivals : Nat := 0
  sorted : queue.Pairwise Waiting.Before := by simp
  numbered : ∀ w ∈ queue, w.number < arrivals := by simp
  distinct : queue.Pairwise (·.number ≠ ·.number) := by simp

namespace Timeline

variable {α : Type}

@[ext] theorem ext {q r : Timeline α} (h : q.queue = r.queue) (ha : q.arrivals = r.arrivals) :
    q = r := by
  cases q; cases r; cases h; cases ha; rfl

instance : EmptyCollection (Timeline α) := ⟨{}⟩

instance : Inhabited (Timeline α) := ⟨∅⟩

@[simp] theorem queue_empty : (∅ : Timeline α).queue = [] := rfl

def insert (q : Timeline α) (t : Time) (a : α) : Timeline α where
  queue := Waiting.push ⟨t, q.arrivals, a⟩ q.queue
  arrivals := q.arrivals + 1
  sorted := Waiting.pairwise_push q.sorted fun y hy => Nat.ne_of_lt (q.numbered y hy)
  numbered := by
    intro x hx
    rcases List.mem_cons.1 ((Waiting.push_perm _ _).subset hx) with rfl | hx
    · exact Nat.lt_succ_self _
    · exact Nat.lt_succ_of_lt (q.numbered x hx)
  distinct := by
    refine ((Waiting.push_perm _ _).pairwise_iff fun {x y} hxy => hxy.symm).2 ?_
    exact List.pairwise_cons.2 ⟨fun x hx => (Nat.ne_of_lt (q.numbered x hx)).symm, q.distinct⟩

def ready (q : Timeline α) (now : Time) : List (Waiting α) := q.queue.takeWhile (·.time ≤ now)

def after (q : Timeline α) (now : Time) : Timeline α where
  queue := q.queue.dropWhile (·.time ≤ now)
  arrivals := q.arrivals
  sorted := q.sorted.sublist (List.dropWhile_sublist _)
  numbered w hw := q.numbered w ((List.dropWhile_sublist _).subset hw)
  distinct := q.distinct.sublist (List.dropWhile_sublist _)

def clear (q : Timeline α) : Timeline α where
  arrivals := q.arrivals

def size (q : Timeline α) : Nat := q.queue.length

def isEmpty (q : Timeline α) : Bool := q.queue.isEmpty

def next? (q : Timeline α) : Option Time := q.queue.head?.map (·.time)

theorem ready_append_after (q : Timeline α) (now : Time) :
    q.ready now ++ (q.after now).queue = q.queue := List.takeWhile_append_dropWhile

theorem queue_insert_perm (q : Timeline α) (t : Time) (a : α) :
    (q.insert t a).queue.Perm (⟨t, q.arrivals, a⟩ :: q.queue) := Waiting.push_perm _ _

@[simp] theorem size_insert (q : Timeline α) (t : Time) (a : α) :
    (q.insert t a).size = q.size + 1 := (q.queue_insert_perm t a).length_eq

@[simp] theorem queue_clear (q : Timeline α) : q.clear.queue = [] := rfl

end Timeline

end MeshNet
