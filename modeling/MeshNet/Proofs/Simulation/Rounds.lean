import MeshNet.Proofs.Agenda.Refinement
import MeshNet.Proofs.Simulation.Arrival
import MeshNet.Proofs.Simulation.Grid

namespace MeshNet

namespace Timeline

variable {α : Type}

def slots : List Time → Timeline α → List (List (Waiting α))
  | [], _ => []
  | time :: times, q => q.ready time :: slots times (q.after time)

theorem flatten_slots {times : List Time} (ascending : times.Pairwise (· < ·)) {last : Time}
    (ends : times.getLast? = some last) (q : Timeline α) :
    (slots times q).flatten = q.ready last := by
  induction times generalizing q with
  | nil => cases ends
  | cons time times ih =>
    rw [List.pairwise_cons] at ascending
    rw [slots, List.flatten_cons]
    cases times with
    | nil =>
      obtain rfl : time = last := Option.some.inj ends
      exact List.append_nil _
    | cons next times =>
      rw [List.getLast?_cons_cons] at ends
      have before : time ≤ last :=
        UInt64.le_of_lt (ascending.1 last (List.mem_of_getLast? ends))
      rw [ih ascending.2 ends, q.ready_append_ready_after before]

theorem foldl_after {times : List Time} (ascending : times.Pairwise (· < ·)) {last : Time}
    (ends : times.getLast? = some last) (q : Timeline α) : times.foldl after q = q.after last := by
  induction times generalizing q with
  | nil => cases ends
  | cons time times ih =>
    rw [List.pairwise_cons] at ascending
    rw [List.foldl_cons]
    cases times with
    | nil =>
      obtain rfl : time = last := Option.some.inj ends
      rfl
    | cons next times =>
      rw [List.getLast?_cons_cons] at ends
      have before : time ≤ last :=
        UInt64.le_of_lt (ascending.1 last (List.mem_of_getLast? ends))
      rw [ih ascending.2 ends, q.after_after before]

theorem length_slots (times : List Time) (q : Timeline α) : (slots times q).length = times.length := by
  induction times generalizing q with
  | nil => rfl
  | cons time times ih => rw [slots, List.length_cons, List.length_cons, ih]

theorem mem_getElem_slots {times : List Time} {q : Timeline α} {k : Nat}
    (h : k < times.length) (within : k < (slots times q).length) {w : Waiting α} :
    w ∈ (slots times q)[k] ↔
      w ∈ q.queue ∧ w.time ≤ times[k] ∧ ∀ j (_ : j < k), times[j] < w.time := by
  induction times generalizing q k with
  | nil => cases h
  | cons time times ih =>
    cases k with
    | zero =>
      simp [slots, mem_ready]
    | succ k =>
      simp only [slots, List.getElem_cons_succ]
      rw [ih (Nat.lt_of_succ_lt_succ h) (Nat.lt_of_succ_lt_succ within), mem_after]
      -- What is left after the first time is what that time has missed.
      constructor
      · rintro ⟨⟨waits, late⟩, reached, missed⟩
        refine ⟨waits, reached, fun j hj => ?_⟩
        cases j with
        | zero => exact UInt64.not_le.mp late
        | succ j => exact missed j (Nat.lt_of_succ_lt_succ hj)
      · rintro ⟨waits, reached, missed⟩
        refine ⟨⟨waits, UInt64.not_le.mpr (missed 0 (Nat.succ_pos k))⟩, reached, fun j hj => ?_⟩
        exact missed (j + 1) (Nat.succ_lt_succ hj)

end Timeline

structure Round where
  now : Time
  verdicts : List (Waiting Event × Except String Unit)
  update : UpdateReport

namespace Round

open Worklist (succeeded refused)

def tasks (r : Round) : List (Waiting Event) := r.verdicts.map (·.1)

def report (r : Round) : StepReport where
  now := r.now
  executed := (succeeded r.verdicts).length
  failed := (refused r.verdicts).length
  update := r.update

def failures (r : Round) : List Failure := (refused r.verdicts).map (Worklist.report r.now)

theorem executed_add_failed (r : Round) :
    r.report.executed + r.report.failed = r.tasks.length := by
  have split := (Worklist.succeeded_append_refused_perm r.verdicts).length_eq
  rw [List.length_append, List.length_map] at split
  exact split

theorem sum_executed_add_failed (rounds : List Round) :
    ((rounds.map report).map fun r => r.executed + r.failed).sum = (rounds.flatMap tasks).length := by
  rw [List.map_map, List.length_flatMap]
  congr 1
  exact List.map_congr_left fun r _ => r.executed_add_failed

end Round

variable {φ : Type} [Firmware φ]

def Mesh.play : List (Time × List (Waiting Event)) → Mesh φ → Checked (List Round × Mesh φ)
  | [], mesh => .ok ([], mesh)
  | (now, tasks) :: plan, mesh => do
    let (verdicts, mesh) ← Worklist.perform now tasks mesh
    let (update, mesh) ← mesh.update now
    let (rounds, mesh) ← play plan mesh
    return (⟨now, verdicts, update⟩ :: rounds, mesh)

namespace Simulation

variable {s s' : Simulation φ}

theorem exists_round {now : Time} {report : StepReport} (later : s.clock ≤ now)
    (h : s.advance now = .ok (report, s')) :
    ∃ (r : Round) (mesh : Mesh φ),
      Worklist.perform now (s.agenda.pending.ready now) s.mesh = .ok (r.verdicts, mesh) ∧
      mesh.update now = .ok (r.update, s'.mesh) ∧ r.now = now ∧ r.report = report ∧
      s'.clock = now ∧ s'.agenda.pending = s.agenda.pending.after now ∧
      s'.agenda.failures = s.agenda.failures ++ r.failures := by
  have told := advance_eq_ok h
  rw [Time.max_eq_right later] at told
  obtain ⟨verdicts, mesh, update, performed, updated, rfl, clock, pending, failures⟩ := told
  exact ⟨⟨now, verdicts, update⟩, mesh, performed, updated, rfl, rfl, clock, pending, failures⟩

theorem exists_rounds {times : List Time} {reports : List StepReport}
    (ascending : (s.clock :: times).Pairwise (· < ·))
    (h : s.advanceAll times = .ok (reports, s')) :
    ∃ rounds : List Round,
      s.mesh.play (rounds.map fun r => (r.now, r.tasks)) = .ok (rounds, s'.mesh) ∧
      rounds.map Round.now = times ∧
      rounds.map Round.tasks = s.agenda.pending.slots times ∧
      rounds.map Round.report = reports ∧
      s'.agenda.pending = times.foldl Timeline.after s.agenda.pending ∧
      s'.agenda.failures = s.agenda.failures ++ rounds.flatMap Round.failures := by
  induction times generalizing s reports with
  | nil =>
    cases h
    exact ⟨[], rfl, rfl, rfl, rfl, rfl, (List.append_nil _).symm⟩
  | cons time times ih =>
    rw [List.pairwise_cons] at ascending
    obtain ⟨⟨report, next⟩, step, h⟩ := Checked.bind_eq_ok.mp h
    obtain ⟨⟨more, last⟩, steps, h⟩ := Checked.bind_eq_ok.mp h
    cases h
    -- The clock never runs ahead of the times, so each step works at its own time.
    have later : s.clock ≤ time := UInt64.le_of_lt (ascending.1 time (List.mem_cons_self ..))
    obtain ⟨r, mesh, performed, updated, rfl, rfl, clock, pending, failures⟩ :=
      exists_round later step
    obtain ⟨rounds, played, rfl, tasks, rfl, rest, failed⟩ := ih (clock ▸ ascending.2) steps
    have due : r.tasks = s.agenda.pending.ready r.now := Worklist.map_fst_perform performed
    refine ⟨r :: rounds, ?_, rfl, ?_, rfl, ?_, ?_⟩
    · simp only [List.map_cons, Mesh.play, due, performed, updated, played, Checked.ok_bind]
      rfl
    · rw [List.map_cons, tasks, pending, due, Timeline.slots]
    · rw [rest, pending, List.foldl_cons]
    · rw [failed, failures, List.append_assoc, List.flatMap_cons]

theorem events_fire_at_first_step {last : Time} {stride : UInt64} {reports : List StepReport}
    (start : s.clock < last) (run : s.runUntil last stride = .ok (reports, s')) :
    ∃ rounds : List Round,
      s.mesh.play (rounds.map fun r => (r.now, r.tasks)) = .ok (rounds, s'.mesh) ∧
      (∀ k (_ : k < rounds.length),
        rounds[k].now.toNat = gridTime stride last s.clock (k + 1) ∧
        ∀ w, w ∈ rounds[k].tasks ↔ w ∈ s.agenda.pending.queue ∧
          w.time.toNat ≤ gridTime stride last s.clock (k + 1) ∧
          ∀ j < k, gridTime stride last s.clock (j + 1) < w.time.toNat) ∧
      rounds.getLast?.map Round.now = some last ∧
      rounds.flatMap Round.tasks = s.agenda.pending.queue.filter (·.time ≤ last) ∧
      (rounds.flatMap Round.tasks).Pairwise
        (fun v w => v.time < w.time ∨ v.time = w.time ∧ v.number < w.number) ∧
      s'.agenda.pending.queue = s.agenda.pending.queue.filter (last < ·.time) ∧
      reports = rounds.map Round.report ∧
      (reports.map fun r => r.executed + r.failed).sum =
        (s.agenda.pending.queue.filter (·.time ≤ last)).length ∧
      s'.agenda.failures = s.agenda.failures ++ rounds.flatMap Round.failures := by
  have ascending := stepTimes_ascending stride last s.clock
  have ends := getLast?_stepTimes stride start
  have inOrder := (List.pairwise_cons.mp ascending).2
  obtain ⟨rounds, played, times, slots, rfl, pending, failures⟩ := exists_rounds ascending run
  have all : rounds.flatMap Round.tasks = s.agenda.pending.queue.filter (·.time ≤ last) := by
    rw [List.flatMap_def, slots, Timeline.flatten_slots inOrder ends, Timeline.ready_eq_filter]
  refine ⟨rounds, played, fun k hk => ?_, ?_, all, ?_, ?_, rfl, ?_, failures⟩
  · have len : rounds.length = (stepTimes stride last s.clock).length := by
      rw [← times, List.length_map]
    have grid (j : Nat) (hj : j < rounds.length) :
        (stepTimes stride last s.clock)[j].toNat = gridTime stride last s.clock (j + 1) :=
      toNat_getElem_stepTimes stride last s.clock (len ▸ hj)
    have now : rounds[k].now = (stepTimes stride last s.clock)[k] := by
      simp only [← times, List.getElem_map]
    have within : k < (s.agenda.pending.slots (stepTimes stride last s.clock)).length := by
      rwa [Timeline.length_slots, ← len]
    have tasks : rounds[k].tasks = (s.agenda.pending.slots (stepTimes stride last s.clock))[k] := by
      simp only [← slots, List.getElem_map]
    refine ⟨now ▸ grid k hk, fun w => ?_⟩
    rw [tasks, Timeline.mem_getElem_slots (len ▸ hk) within, UInt64.le_iff_toNat_le, grid k hk]
    refine and_congr_right fun _ => and_congr_right fun _ => forall₂_congr fun j hj => ?_
    rw [UInt64.lt_iff_toNat_lt, grid j (hj.trans hk)]
  · rw [← List.getLast?_map, times, ends]
  · rw [all]
    refine (s.agenda.pending.sorted.filter _).imp fun h => ?_
    exact Waiting.before_iff.mp h
  · rw [pending, Timeline.foldl_after inOrder ends, Timeline.queue_after_eq_filter]
  · rw [Round.sum_executed_add_failed, all]

theorem events_fire_at_first_step_overdue_and_late :
    let idle : Simulation Builtin := { Simulation.seeded 1 with clock := 10 }
    let s := ((((idle.schedule .heal 15).schedule (.crash ⟨1⟩) 13).schedule .heal 3).schedule
      (.drop ⟨⟨1⟩, ⟨2⟩⟩) 14).schedule (.start ⟨1⟩) 20
    (10 : Time) < 15 ∧ ∃ reports s', s.runUntil 15 3 = .ok (reports, s') ∧
      (reports.map fun r => (r.now, r.executed, r.failed)) = [(13, 1, 1), (15, 2, 0)] ∧
      s'.agenda.pending.queue.map (·.time) = [20] ∧
      ∃ rounds : List Round, reports = rounds.map Round.report ∧
        (rounds.flatMap Round.tasks).map (·.time) = [3, 13, 14, 15] ∧
        s'.agenda.failures = rounds.flatMap Round.failures := by
  intro idle s
  have start : s.clock < 15 := by
    decide +kernel
  have run : (fun r => r.1.map fun r => (r.now, r.executed, r.failed)) <$> s.runUntil 15 3 =
      .ok [(13, 1, 1), (15, 2, 0)] := by
    decide +kernel
  have due : (s.agenda.pending.queue.filter (·.time ≤ 15)).map (·.time) = [3, 13, 14, 15] := by
    decide +kernel
  have left : (s.agenda.pending.queue.filter (15 < ·.time)).map (·.time) = [20] := by
    decide +kernel
  obtain ⟨⟨reports, s'⟩, h, counts⟩ := Checked.map_eq_ok.mp run
  obtain ⟨rounds, -, -, -, all, -, pending, told, -, failures⟩ := events_fire_at_first_step start h
  exact ⟨start, reports, s', h, counts, pending ▸ left, rounds, told, all ▸ due, failures⟩

end Simulation

end MeshNet
