import MeshNet.Proofs.Agenda.Worklist

namespace MeshNet

variable {ε κ : Type}

namespace Agenda

def ofTasks (tasks : List (Waiting ε)) : Agenda ε :=
  tasks.foldl (fun a task => a.schedule task.item task.time) ∅

theorem roll_foldl_schedule (tasks : List (Waiting ε)) (a : Agenda ε) :
    (tasks.foldl (fun a task => a.schedule task.item task.time) a).pending.roll.waiting.map
      (·.entry) = a.pending.roll.waiting.map (·.entry) ++ tasks.map (·.entry) := by
  induction tasks generalizing a with
  | nil => simp
  | cons task tasks ih =>
    rw [List.foldl_cons, ih]
    simp [schedule, Roll.add, Waiting.entry]

theorem failures_ofTasks (tasks : List (Waiting ε)) : (ofTasks tasks).failures = [] := by
  have h (tasks : List (Waiting ε)) (a : Agenda ε) :
      (tasks.foldl (fun a task => a.schedule task.item task.time) a).failures = a.failures := by
    induction tasks generalizing a with
    | nil => rfl
    | cons task tasks ih => exact ih _
  exact h tasks ∅

theorem ready_ofTasks {tasks : List (Waiting ε)} {now : Time}
    (due : ∀ task ∈ tasks, task.time ≤ now) (sorted : tasks.Pairwise (·.time ≤ ·.time)) :
    ((ofTasks tasks).pending.ready now).map (·.entry) = tasks.map (·.entry) := by
  have he : (ofTasks tasks).pending.roll.waiting.map (·.entry) = tasks.map (·.entry) := by
    have hn : (∅ : Agenda ε).pending.roll = {} := Timeline.roll_empty
    rw [ofTasks, roll_foldl_schedule, hn]
    rfl
  have ht : (ofTasks tasks).pending.roll.waiting.map (·.time) = tasks.map (·.time) := by
    have h := congrArg (List.map Prod.fst) he
    simpa [Waiting.entry, Function.comp_def] using h
  have hd : ∀ w ∈ (ofTasks tasks).pending.roll.waiting, w.time ≤ now := by
    intro w hw
    have hw : w.time ∈ tasks.map (·.time) := ht ▸ List.mem_map_of_mem hw
    obtain ⟨task, hm, hw⟩ := List.mem_map.1 hw
    exact hw ▸ due task hm
  have hs : (ofTasks tasks).pending.roll.waiting.Pairwise (·.time ≤ ·.time) := by
    rw [← List.pairwise_map (f := Waiting.time) (R := (· ≤ ·)), ht, List.pairwise_map]
    exact sorted
  rw [Timeline.ready_eq_due, Roll.due, List.filter_eq_self.2 (by simpa using hd),
    List.mergeSort_of_pairwise (by simpa using hs), he]

end Agenda

namespace Worklist

variable [Executable ε κ]

theorem perform_congr {now : Time} {tasks others : List (Waiting ε)} {context context' : κ}
    {verdicts : List (Waiting ε × Except String Unit)}
    (hi : tasks.map (·.item) = others.map (·.item))
    (h : perform now others context = .ok (verdicts, context')) :
    ∃ verdicts', perform now tasks context = .ok (verdicts', context') ∧
      verdicts'.map (·.2) = verdicts.map (·.2) := by
  induction others generalizing tasks context verdicts with
  | nil =>
    obtain rfl := List.map_eq_nil_iff.1 hi
    exact ⟨verdicts, h, rfl⟩
  | cons other others ih =>
    obtain ⟨task, rest, rfl, ht, hr⟩ := List.map_eq_cons_iff.1 hi
    rw [perform] at h
    obtain ⟨⟨verdict, d⟩, hp, h⟩ := Checked.bind_eq_ok.1 h
    obtain ⟨⟨others', d'⟩, ho, h⟩ := Checked.bind_eq_ok.1 h
    cases h
    obtain ⟨rest', hr, hv⟩ := ih hr ho
    refine ⟨(task, verdict) :: rest', ?_, ?_⟩
    · rw [perform, ht, hp]
      simp only [Checked.ok_bind, hr]
      rfl
    · rw [List.map_cons, List.map_cons, hv]

variable (ε κ) in
def Atomic : Prop :=
  ∀ (task : ε) (now : Time) (context context' : κ) (error : String),
    ((Executable.perform task now).run.run context : Checked _) = .ok (.error error, context') →
      context' = context

theorem perform_succeeded (atomic : Atomic ε κ) {now : Time} {tasks : List (Waiting ε)}
    {context context' : κ} {verdicts : List (Waiting ε × Except String Unit)}
    (h : perform now tasks context = .ok (verdicts, context')) :
    perform now (succeeded verdicts) context =
      .ok ((succeeded verdicts).map (·, .ok ()), context') := by
  induction tasks generalizing context verdicts with
  | nil =>
    cases h
    rfl
  | cons task tasks ih =>
    rw [perform] at h
    obtain ⟨⟨verdict, d⟩, hp, h⟩ := Checked.bind_eq_ok.1 h
    obtain ⟨⟨rest, d'⟩, hr, h⟩ := Checked.bind_eq_ok.1 h
    cases h
    have hs := ih hr
    cases verdict with
    | ok _ =>
      have hc : succeeded ((task, .ok ()) :: rest) = task :: succeeded rest := rfl
      rw [hc, perform, hp]
      simp only [Checked.ok_bind, hs]
      rfl
    | error error =>
      have hc : succeeded ((task, .error error) :: rest) = succeeded rest := rfl
      obtain rfl := atomic _ _ _ _ _ hp
      rw [hc]
      exact hs

omit [Executable ε κ] in
theorem succeeded_of_accepted {verdicts : List (Waiting ε × Except String Unit)}
    (h : ∀ v ∈ verdicts, v.2 = .ok ()) :
    succeeded verdicts = verdicts.map (·.1) ∧ refused verdicts = [] := by
  induction verdicts with
  | nil => exact ⟨rfl, rfl⟩
  | cons v verdicts ih =>
    obtain ⟨task, verdict⟩ := v
    obtain rfl : verdict = .ok () := h _ (List.mem_cons_self ..)
    obtain ⟨hs, hr⟩ := ih fun v hv => h v (List.mem_cons_of_mem _ hv)
    exact ⟨congrArg (task :: ·) hs, hr⟩

end Worklist

namespace Agenda

variable [ToString ε] [Executable ε κ]

theorem run_ofTasks_succeeded (atomic : Worklist.Atomic ε κ) {a a' : Agenda ε} {now : Time}
    {context context' : κ} {count : Nat} (h : a.run now context = .ok (count, a', context')) :
    ∃ verdicts, Worklist.perform now (a.pending.ready now) context = .ok (verdicts, context') ∧
      ∃ b, (ofTasks (Worklist.succeeded verdicts)).run now context = .ok (count, b, context') ∧
        b.failures = [] := by
  obtain ⟨verdicts, hv, rfl, -⟩ := run_eq_ok h
  refine ⟨verdicts, hv, ?_⟩
  have hsub : (Worklist.succeeded verdicts).Sublist (a.pending.ready now) := by
    rw [← Worklist.map_fst_perform hv]
    exact List.filter_sublist.map _
  have due : ∀ task ∈ Worklist.succeeded verdicts, task.time ≤ now := fun task hm =>
    Timeline.time_le_of_mem_ready (hsub.subset hm)
  have sorted : (Worklist.succeeded verdicts).Pairwise (·.time ≤ ·.time) :=
    (a.pending.sorted.sublist (hsub.trans (List.takeWhile_sublist _))).imp Waiting.Before.time_le
  -- The tasks are numbered anew, so it is their items that are compared.
  have hi := congrArg (List.map Prod.snd) (ready_ofTasks due sorted)
  simp only [List.map_map] at hi
  obtain ⟨verdicts', hp', hv'⟩ :=
    Worklist.perform_congr hi (Worklist.perform_succeeded atomic hv)
  have accepted : ∀ v ∈ verdicts', v.2 = .ok () := fun v hm => by
    have hm : v.2 ∈ verdicts'.map (·.2) := List.mem_map_of_mem hm
    rw [hv', List.map_map] at hm
    obtain ⟨task, -, hm⟩ := List.mem_map.1 hm
    exact hm.symm
  obtain ⟨hs, hr⟩ := Worklist.succeeded_of_accepted accepted
  have hl := congrArg List.length hv'
  simp only [List.length_map] at hl
  rw [run, Worklist.performAll_eq, hp']
  simp only [Checked.map_ok, Checked.ok_bind, Checked.pure_def, Worklist.countP_outcome,
    Worklist.filterMap_outcome, hs, hr, failures_ofTasks]
  exact ⟨_, by rw [List.length_map, hl], rfl⟩

end Agenda

end MeshNet
