import Mathlib.Algebra.Ring.Nat
import MeshNet.Time

namespace MeshNet

inductive LifecycleOp where
  | start (now : Time)
  | stop (now : Time)
  | crash (now : Time)
  | restart (now : Time)
deriving DecidableEq

def LifecycleOp.time : LifecycleOp → Time
  | start now | stop now | crash now | restart now => now

structure Attendance where
  sessions : List (Time × Time) := []
  since : Option Time := none
  crashes : Nat := 0
deriving DecidableEq

namespace Attendance

def leave (a : Attendance) (now : Time) : Attendance where
  sessions := a.sessions ++ (a.since.map (·, now)).toList
  crashes := a.crashes

def step (a : Attendance) : LifecycleOp → Attendance
  | .start now => { a with since := a.since.or (some now) }
  | .stop now => a.leave now
  | .crash now => { a.leave now with crashes := a.crashes + if a.since.isSome then 1 else 0 }
  | .restart now => { a.leave now with since := some now }

def steps (a : Attendance) (ops : List LifecycleOp) : Attendance := ops.foldl step a

def finished (a : Attendance) : Nat := (a.sessions.map fun s => s.2.toNat - s.1.toNat).sum

def total (a : Attendance) (now : Time) : Nat :=
  a.finished + (a.since.map fun start => now.toNat - start.toNat).getD 0

def bounds (a : Attendance) : List Time :=
  a.sessions.flatMap (fun s => [s.1, s.2]) ++ a.since.toList

def InOrder (a : Attendance) (now : Time) : Prop := (a.bounds ++ [now]).Pairwise (· ≤ ·)

theorem finished_leave (a : Attendance) (now : Time) : (a.leave now).finished = a.total now := by
  cases hs : a.since with
  | none => simp [finished, leave, total, hs]
  | some start => simp [finished, leave, total, hs]

theorem total_step (a : Attendance) (op : LifecycleOp) :
    (a.step op).total op.time = a.total op.time := by
  cases op with
  | start now =>
    cases hs : a.since with
    | none => simp [step, total, finished, LifecycleOp.time, hs]
    | some start => simp [step, total, finished, LifecycleOp.time, hs]
  | stop now | crash now => exact a.finished_leave now
  | restart now =>
    have hl := a.finished_leave now
    rw [finished] at hl
    simp [step, total, finished, LifecycleOp.time, hl]

theorem bounds_step (a : Attendance) (op : LifecycleOp) :
    ∃ k, (a.step op).bounds = a.bounds ++ List.replicate k op.time := by
  cases hs : a.since with
  | none =>
    cases op with
    | start now | restart now => exact ⟨1, by simp [step, leave, bounds, LifecycleOp.time, hs]⟩
    | stop now | crash now => exact ⟨0, by simp [step, leave, bounds, hs]⟩
  | some start =>
    cases op with
    | start now => exact ⟨0, by simp [step, bounds, hs]⟩
    | stop now | crash now => exact ⟨1, by simp [step, leave, bounds, LifecycleOp.time, hs]⟩
    | restart now =>
      exact ⟨2, by simp [step, leave, bounds, LifecycleOp.time, hs, List.replicate_succ]⟩

theorem InOrder.step {a : Attendance} {op : LifecycleOp} (h : a.InOrder op.time) :
    (a.step op).InOrder op.time := by
  obtain ⟨k, hk⟩ := a.bounds_step op
  rw [InOrder, List.pairwise_append] at h
  obtain ⟨sorted, -, before⟩ := h
  rw [InOrder, hk, List.append_assoc, ← List.replicate_succ', List.pairwise_append]
  refine ⟨sorted, List.pairwise_replicate.2 (.inr (UInt64.le_refl _)), fun x hx y hy => ?_⟩
  rw [List.eq_of_mem_replicate hy]
  exact before x hx op.time (List.mem_singleton_self _)

theorem InOrder.later {a : Attendance} {t u : Time} (h : a.InOrder t) (htu : t ≤ u) :
    a.InOrder u := by
  rw [InOrder, List.pairwise_append] at h ⊢
  obtain ⟨sorted, -, before⟩ := h
  refine ⟨sorted, List.pairwise_singleton _ _, fun x hx y hy => ?_⟩
  rw [List.mem_singleton.1 hy]
  exact UInt64.le_trans (before x hx t (List.mem_singleton_self t)) htu

theorem sum_le_of_pairwise {sessions : List (Time × Time)} {first last : Time}
    (h : (first :: (sessions.flatMap (fun s => [s.1, s.2]) ++ [last])).Pairwise (· ≤ ·)) :
    first.toNat + (sessions.map fun s => s.2.toNat - s.1.toNat).sum ≤ last.toNat := by
  induction sessions generalizing first with
  | nil => simpa using UInt64.le_iff_toNat_le.1 (List.rel_of_pairwise_cons h (by simp))
  | cons s sessions ih =>
    have before : first ≤ s.1 := List.rel_of_pairwise_cons h (by simp)
    have within : s.1 ≤ s.2 := List.rel_of_pairwise_cons h.of_cons (by simp)
    have rest := ih h.of_cons.of_cons
    rw [UInt64.le_iff_toNat_le] at before within
    rw [List.map_cons, List.sum_cons]
    omega

theorem total_le {a : Attendance} {now : Time} (h : a.InOrder now) : a.total now ≤ now.toNat := by
  rw [InOrder, bounds] at h
  cases hs : a.since with
  | none =>
    rw [hs, Option.toList_none, List.append_nil] at h
    have := sum_le_of_pairwise (h.cons fun _ _ => UInt64.zero_le)
    simpa [total, finished, hs] using this
  | some start =>
    rw [hs, Option.toList_some] at h
    have fit : 0 + a.finished ≤ start.toNat :=
      sum_le_of_pairwise ((List.pairwise_append.1 h).1.cons fun _ _ => UInt64.zero_le)
    have started : start ≤ now := (List.pairwise_append.1 h).2.2 start (by simp) now (by simp)
    rw [UInt64.le_iff_toNat_le] at started
    simp only [total, hs, Option.map_some, Option.getD_some]
    omega

end Attendance

end MeshNet
