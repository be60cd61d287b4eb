import Mathlib.Algebra.Order.Floor.Div
import Mathlib.Algebra.Order.Floor.Semiring
import MeshNet.Firmware.Catalogue
import MeshNet.Proofs.Conservation.Run
import MeshNet.Proofs.Simulation.Grid

namespace MeshNet.Simulation

theorem length_stepTimes (stride : UInt64) (last now : Time) :
    (stepTimes stride last now).length = (last.toNat - now.toNat) ⌈/⌉ max stride.toNat 1 := by
  have positive : 0 < max stride.toNat 1 := by omega
  have bound (k : Nat) : (stepTimes stride last now).length ≤ k ↔
      (last.toNat - now.toNat) ⌈/⌉ max stride.toNat 1 ≤ k := by
    have begun := lt_length_stepTimes_iff stride last now k
    rw [ceilDiv_le_iff_le_mul positive, ← Nat.not_lt, begun, Nat.mul_comm]
    omega
  apply Nat.le_antisymm
  · exact (bound _).mpr (Nat.le_refl _)
  · exact (bound _).mp (Nat.le_refl _)

theorem stepTimes_append {stride : UInt64} {last middle now : Time} (first : now ≤ middle)
    (second : middle ≤ last) (whole : max stride.toNat 1 ∣ middle.toNat - now.toNat) :
    stepTimes stride last now = stepTimes stride middle now ++ stepTimes stride last middle := by
  induction now using stepTimes.induct stride middle with
  | case1 now before ih =>
    have room : max stride.toNat 1 ≤ middle.toNat - now.toNat := by
      have apart := UInt64.lt_iff_toNat_lt.mp before
      exact Nat.le_of_dvd (by omega) whole
    have inside := UInt64.le_iff_toNat_le.mp second
    have before' : now < last := UInt64.lt_iff_toNat_lt.mpr (by omega)
    have next : (nextStep stride middle now).toNat = now.toNat + max stride.toNat 1 := by
      rw [toNat_nextStep_eq_gridTime stride before, gridTime]
      omega
    -- Up to the cut no step is shortened, so it does not matter for which end it was made.
    have same : nextStep stride last now = nextStep stride middle now := by
      rw [← UInt64.toNat_inj, next, toNat_nextStep_eq_gridTime stride before', gridTime]
      omega
    have reached : nextStep stride middle now ≤ middle := by
      rw [UInt64.le_iff_toNat_le, next]
      omega
    have rest : max stride.toNat 1 ∣ middle.toNat - (nextStep stride middle now).toNat := by
      rw [next, ← Nat.sub_sub]
      exact Nat.dvd_sub whole (Nat.dvd_refl _)
    rw [stepTimes_of_lt stride before, stepTimes_of_lt stride before', same, ih reached rest]
    rfl
  | case2 now ended =>
    have met : now = middle := UInt64.le_antisymm first (UInt64.not_lt.mp ended)
    rw [stepTimes_of_not_lt stride ended, met]
    rfl

section Steps

variable {φ : Type} [Firmware φ] {s s' : Simulation φ}

theorem clock_of_advance {now : Time} {report : StepReport}
    (h : s.advance now = .ok (report, s')) :
    s'.clock = max s.clock now ∧ report.now = max s.clock now := by
  obtain ⟨⟨executed, agenda, mesh⟩, -, h⟩ := Checked.bind_eq_ok.mp h
  obtain ⟨⟨update, mesh'⟩, -, h⟩ := Checked.bind_eq_ok.mp h
  cases h
  exact ⟨rfl, rfl⟩

theorem clock_le_of_advance {now : Time} {report : StepReport}
    (h : s.advance now = .ok (report, s')) : s.clock ≤ s'.clock := by
  rw [(clock_of_advance h).1]
  exact Time.le_max_left _ _

theorem clock_le_of_advanceAll {times : List Time} {reports : List StepReport}
    (h : s.advanceAll times = .ok (reports, s')) : s.clock ≤ s'.clock :=
  advanceAll_induction (P := fun a => s.clock ≤ a.clock)
    (fun _ _ _ _ later step => UInt64.le_trans later (clock_le_of_advance step))
    (UInt64.le_refl _) h

theorem clock_le_of_step {c : Command φ} {ledger : Ledger φ}
    (h : s.step c = .ok (ledger, s')) : s.clock ≤ s'.clock := by
  cases c with
  | advance now =>
    obtain ⟨⟨report, next⟩, step, h⟩ := Checked.bind_eq_ok.mp h
    cases h
    exact clock_le_of_advance step
  | runUntil last stride =>
    obtain ⟨⟨reports, next⟩, run, h⟩ := Checked.bind_eq_ok.mp h
    cases h
    exact clock_le_of_advanceAll run
  | startAll now | stopAll now | remove id now =>
    obtain ⟨⟨reply, fleet⟩, -, h⟩ := Checked.bind_eq_ok.mp h
    cases h
    exact UInt64.le_refl _
  | add id =>
    cases h
    cases s.mesh.fleet.add id <;> exact UInt64.le_refl _
  | create catalogue spec =>
    cases h
    cases s.mesh.fleet.create catalogue spec <;> exact UInt64.le_refl _
  | schedule e time | configure setting | cut l | mend l | mendAll | offer m now =>
    cases h
    exact UInt64.le_refl _

theorem clock_le_of_steps {cs : List (Command φ)} {ledger : Ledger φ}
    (h : s.steps cs = .ok (ledger, s')) : s.clock ≤ s'.clock := by
  induction cs generalizing s ledger with
  | nil =>
    cases h
    exact UInt64.le_refl _
  | cons c cs ih =>
    obtain ⟨⟨l, next⟩, step, h⟩ := Checked.bind_eq_ok.mp h
    obtain ⟨⟨m, last⟩, rest, h⟩ := Checked.bind_eq_ok.mp h
    cases h
    exact UInt64.le_trans (clock_le_of_step step) (ih rest)

theorem times_of_advanceAll {times : List Time} {reports : List StepReport}
    (ascending : (s.clock :: times).Pairwise (· < ·))
    (h : s.advanceAll times = .ok (reports, s')) :
    reports.map (·.now) = times ∧ s'.clock = times.getLast?.getD s.clock := by
  induction times generalizing s reports with
  | nil =>
    cases h
    exact ⟨rfl, rfl⟩
  | cons time times ih =>
    rw [List.pairwise_cons] at ascending
    obtain ⟨⟨report, next⟩, step, h⟩ := Checked.bind_eq_ok.mp h
    obtain ⟨⟨more, last⟩, rest, h⟩ := Checked.bind_eq_ok.mp h
    cases h
    have later : max s.clock time = time :=
      Time.max_eq_right (UInt64.le_of_lt (ascending.1 time (List.mem_cons_self ..)))
    obtain ⟨clock, now⟩ := clock_of_advance step
    rw [later] at clock now
    obtain ⟨told, final⟩ := ih (clock ▸ ascending.2) rest
    refine ⟨by rw [List.map_cons, now, told], ?_⟩
    rw [final, clock, List.getLast?_cons]
    rfl

theorem advanceAll_append (times more : List Time) (s : Simulation φ) :
    s.advanceAll (times ++ more) =
      s.advanceAll times >>= fun r => (fun q => (r.1 ++ q.1, q.2)) <$> r.2.advanceAll more := by
  induction times generalizing s with
  | nil =>
    rw [List.nil_append, advanceAll, Checked.ok_bind]
    cases s.advanceAll more <;> rfl
  | cons time times ih =>
    rw [List.cons_append, advanceAll, advanceAll]
    cases s.advance time with
    | error fault => rfl
    | ok r =>
      simp only [Checked.ok_bind, ih]
      cases r.2.advanceAll times with
      | error fault => rfl
      | ok q =>
        simp only [Checked.ok_bind, Checked.pure_def]
        cases q.2.advanceAll more <;> rfl

inductive Loops (last : Time) (stride : UInt64) :
    Simulation φ → Checked (List StepReport × Simulation φ) → Prop
  | reached {s : Simulation φ} (ended : ¬ s.clock < last) : Loops last stride s (.ok ([], s))
  | faults {s : Simulation φ} {fault : Fault} (before : s.clock < last)
      (step : s.advance (nextStep stride last s.clock) = .error fault) :
      Loops last stride s (.error fault)
  | steps {s next : Simulation φ} {report : StepReport}
      {outcome : Checked (List StepReport × Simulation φ)} (before : s.clock < last)
      (step : s.advance (nextStep stride last s.clock) = .ok (report, next))
      (rest : Loops last stride next outcome) :
      Loops last stride s ((fun r => (report :: r.1, r.2)) <$> outcome)

variable {last : Time} {stride : UInt64}

theorem runUntil_of_not_lt (h : ¬ s.clock < last) : s.runUntil last stride = .ok ([], s) := by
  rw [runUntil, stepTimes_of_not_lt stride h, advanceAll]

theorem clock_of_advance_nextStep {report : StepReport} (h : s.clock < last)
    (step : s.advance (nextStep stride last s.clock) = .ok (report, s')) :
    s'.clock = nextStep stride last s.clock := by
  rw [(clock_of_advance step).1]
  exact Time.max_eq_right (UInt64.le_of_lt (lt_nextStep stride h))

theorem runUntil_of_lt (h : s.clock < last) :
    s.runUntil last stride = s.advance (nextStep stride last s.clock) >>= fun r =>
      (fun q => (r.1 :: q.1, q.2)) <$> r.2.runUntil last stride := by
  rw [runUntil, stepTimes_of_lt stride h, advanceAll]
  cases step : s.advance (nextStep stride last s.clock) with
  | error fault => rfl
  | ok r =>
    simp only [Checked.ok_bind, runUntil, clock_of_advance_nextStep h step]
    cases r.2.advanceAll _ <;> rfl

theorem runUntil_of_loops {outcome : Checked (List StepReport × Simulation φ)}
    (h : Loops last stride s outcome) : s.runUntil last stride = outcome := by
  induction h with
  | reached ended => exact runUntil_of_not_lt ended
  | faults before step => rw [runUntil_of_lt before, step, Checked.error_bind]
  | steps before step rest ih => rw [runUntil_of_lt before, step, Checked.ok_bind, ih]

theorem loops_runUntil (s : Simulation φ) : Loops last stride s (s.runUntil last stride) := by
  generalize clock : s.clock = now
  induction now using stepTimes.induct stride last generalizing s with
  | case1 now h ih =>
    subst clock
    rw [runUntil_of_lt h]
    cases step : s.advance (nextStep stride last s.clock) with
    | error fault => exact .faults h step
    | ok r => exact .steps h step (ih r.2 (clock_of_advance_nextStep h step))
  | case2 now ended =>
    subst clock
    rw [runUntil_of_not_lt ended]
    exact .reached ended

theorem runUntil_trans {middle : Time} (first : s.clock ≤ middle) (second : middle ≤ last)
    (whole : max stride.toNat 1 ∣ middle.toNat - s.clock.toNat) :
    s.runUntil last stride = (do
      let (reports, s) ← s.runUntil middle stride
      let (more, s) ← s.runUntil last stride
      return (reports ++ more, s)) := by
  have halfway {reports : List StepReport} {s' : Simulation φ}
      (h : s.runUntil middle stride = .ok (reports, s')) : s'.clock = middle := by
    by_cases before : s.clock < middle
    · rw [(times_of_advanceAll (stepTimes_ascending stride middle s.clock) h).2,
        getLast?_stepTimes stride before]
      rfl
    · rw [runUntil_of_not_lt before] at h
      cases h
      exact UInt64.le_antisymm first (UInt64.not_lt.mp before)
  rw [runUntil, stepTimes_append first second whole, advanceAll_append]
  change s.runUntil middle stride >>= _ = _
  cases h : s.runUntil middle stride with
  | error fault => rfl
  | ok r =>
    simp only [Checked.ok_bind]
    rw [runUntil, halfway h]
    cases r.2.advanceAll (stepTimes stride last middle) <;> rfl

theorem runs_step_to_their_end (s : Simulation φ) (last : Time) (stride : UInt64) :
    (∀ outcome, Loops last stride s outcome ↔ s.runUntil last stride = outcome) ∧
    (last ≤ s.clock → s.runUntil last stride = .ok ([], s)) ∧
    (∀ reports s', s.clock < last → s.runUntil last stride = .ok (reports, s') →
      reports.length = (last.toNat - s.clock.toNat) ⌈/⌉ max stride.toNat 1 ∧
      (∀ k (_ : k < reports.length), k + 1 < reports.length →
        reports[k].now.toNat = s.clock.toNat + (k + 1) * max stride.toNat 1) ∧
      reports.getLast?.map (·.now) = some last ∧
      (s.clock :: reports.map (·.now)).Pairwise (· < ·) ∧ s'.clock = last) ∧
    (∀ middle, s.clock ≤ middle → middle ≤ last →
      max stride.toNat 1 ∣ middle.toNat - s.clock.toNat →
        s.runUntil last stride = (do
          let (reports, s) ← s.runUntil middle stride
          let (more, s) ← s.runUntil last stride
          return (reports ++ more, s))) ∧
    ∀ cs ledger s', s.steps cs = .ok (ledger, s') → s.clock ≤ s'.clock := by
  refine ⟨fun outcome => ⟨runUntil_of_loops, ?_⟩, fun ended => ?_, fun reports s' start run => ?_,
    fun middle first second whole => runUntil_trans first second whole,
    fun cs ledger s' h => clock_le_of_steps h⟩
  · rintro rfl
    exact loops_runUntil s
  · exact runUntil_of_not_lt (UInt64.not_lt.mpr ended)
  · have ascending := stepTimes_ascending stride last s.clock
    have ends := getLast?_stepTimes stride start
    obtain ⟨times, clock⟩ := times_of_advanceAll ascending run
    have count : reports.length = (stepTimes stride last s.clock).length := by
      rw [← times, List.length_map]
    refine ⟨by rw [count, length_stepTimes], fun k hk more => ?_, ?_, by rwa [times], ?_⟩
    · have now : reports[k].now = (stepTimes stride last s.clock)[k] := by
        simp only [← times, List.getElem_map]
      have further : s.clock.toNat + (k + 1) * max stride.toNat 1 < last.toNat :=
        (lt_length_stepTimes_iff stride last s.clock (k + 1)).mp (count ▸ more)
      rw [now, toNat_getElem_stepTimes, gridTime]
      omega
    · rw [← List.getLast?_map, times, ends]
    · rw [clock, ends]
      rfl

theorem runs_step_to_their_end_at_the_last_time :
    let s : Simulation Builtin := { Simulation.seeded 1 with clock := 18446744073709551608 }
    let last : Time := 18446744073709551615
    let middle : Time := 18446744073709551614
    s.clock < last ∧ max (3 : UInt64).toNat 1 ∣ middle.toNat - s.clock.toNat ∧
      ∃ reports s', s.runUntil last 3 = .ok (reports, s') ∧ reports.length = 3 ∧
        reports.map (·.now) = [18446744073709551611, middle, last] ∧ s'.clock = last ∧
        s'.runUntil middle 0 = .ok ([], s') ∧
        s.runUntil last 3 = (do
          let (reports, s) ← s.runUntil middle 3
          let (more, s) ← s.runUntil last 3
          return (reports ++ more, s)) := by
  intro s last middle
  have start : s.clock < last := by
    decide +kernel
  have whole : max (3 : UInt64).toNat 1 ∣ middle.toNat - s.clock.toNat := by
    decide +kernel
  have times : (fun r => r.1.map (·.now)) <$> s.runUntil last 3 =
      .ok [18446744073709551611, middle, last] := by
    decide +kernel
  obtain ⟨⟨reports, s'⟩, run, told⟩ := Checked.map_eq_ok.mp times
  obtain ⟨-, -, stepped, composed, -⟩ := runs_step_to_their_end s last 3
  obtain ⟨count, -, -, -, clock⟩ := stepped reports s' start run
  obtain ⟨-, idle, -⟩ := runs_step_to_their_end s' middle 0
  have ahead : middle ≤ s'.clock := by
    rw [clock]
    decide +kernel
  have three : (last.toNat - s.clock.toNat) ⌈/⌉ max (3 : UInt64).toNat 1 = 3 := by
    decide +kernel
  have before : s.clock ≤ middle := by
    decide +kernel
  have within : middle ≤ last := by
    decide +kernel
  exact ⟨start, whole, reports, s', run, count.trans three, told, clock, idle ahead,
    composed middle before within whole⟩

end Steps

end MeshNet.Simulation
