import MeshNet.Proofs.Agenda.Selection
import MeshNet.Proofs.Event.Outcome

namespace MeshNet

theorem Groups.of_check_eq_error {g : Groups} {error : EventError} (h : g.check = .error error) :
    ∃ reason, error = .invalidPartition reason := by
  rw [check] at h
  split at h
  · exact ⟨_, (Except.error.inj h).symm⟩
  · split at h
    · exact ⟨_, (Except.error.inj h).symm⟩
    · exact ⟨_, (Except.error.inj h).symm⟩
    · cases h

namespace Event

variable {φ : Type}

def Fails (f : Fleet φ) : Event → Prop
  | start id | stop id _ | crash id | restart id => f.find? id = none
  | degrade _ _ loss => loss.isNaN ∨ loss < 0.0 ∨ 1.0 < loss
  | partition groups => groups.length < 2 ∨ [] ∈ groups ∨ ¬ groups.flatten.Nodup
  | drop _ | restore _ | heal => False

def Blames : Event → EventError → Prop
  | start id, error | stop id _, error | crash id, error | restart id, error =>
    error = .node (.notFound id)
  | degrade _ _ loss, error => error = .condition (.lossProbability loss)
  | partition groups, error => groups.check = .error error
  | drop _, _ | restore _, _ | heal, _ => False

theorem fails_iff {f : Fleet φ} {e : Event} : e.Fails f ↔ ∃ error, e.refusal? f = some error := by
  have lifecycle (id : NodeId) : f.find? id = none ↔ ∃ error,
      (if f.contains id then none else some (.node (.notFound id)) : Option EventError) =
        some error := by
    have hc : f.contains id = (f.find? id).isSome :=
      Std.ExtTreeMap.contains_eq_isSome_getElem?
    rw [hc]
    cases f.find? id with
    | none => simp
    | some n => simp
  cases e with
  | start id => exact lifecycle id
  | stop id graceful => exact lifecycle id
  | crash id => exact lifecycle id
  | restart id => exact lifecycle id
  | drop l | restore l | heal => exact ⟨False.elim, nofun⟩
  | degrade l latency loss =>
    rw [Fails, refusal?, ← Random.not_isProbability_iff]
    by_cases h : Random.IsProbability loss
    · simp [h]
    · simp [h]
  | partition groups =>
    have hv : ¬ groups.Valid ↔ groups.length < 2 ∨ [] ∈ groups ∨ ¬ groups.flatten.Nodup := by
      rw [Groups.Valid, Decidable.not_and_iff_not_or_not, Decidable.not_and_iff_not_or_not,
        Decidable.not_not, Nat.not_le]
    rw [Fails, refusal?, ← hv]
    cases h : groups.check with
    | ok g =>
      obtain ⟨-, hg⟩ := Groups.check_eq_ok_iff.1 h
      simp [hg]
    | error error =>
      refine ⟨fun _ => ⟨error, rfl⟩, fun _ hg => ?_⟩
      rw [Groups.check_eq_ok_iff.2 ⟨rfl, hg⟩] at h
      cases h

theorem blames_of_refusal? {f : Fleet φ} {e : Event} {error : EventError}
    (h : e.refusal? f = some error) : e.Blames error := by
  cases e with
  | start id | stop id graceful | crash id | restart id | degrade l latency loss =>
    rw [refusal?] at h
    split at h
    · cases h
    · exact (Option.some.inj h).symm
  | drop l | restore l | heal => cases h
  | partition groups =>
    rw [refusal?] at h
    split at h
    · cases h
    · next reason hc =>
      cases h
      exact hc

theorem Blames.ne {e : Event} {error : EventError} (h : e.Blames error) :
    (∀ id, error ≠ .node (.alreadyRunning id)) ∧
      ∀ min max, error ≠ .condition (.latencyBounds min max) := by
  cases e with
  | start id | stop id graceful | crash id | restart id | degrade l latency loss =>
    cases h
    simp
  | drop l | restore l | heal => exact h.elim
  | partition groups =>
    obtain ⟨reason, rfl⟩ := Groups.of_check_eq_error h
    simp

variable [Firmware φ]

theorem perform_eq_error_iff {e : Event} {now : Time} {mesh mesh' : Mesh φ} {error : EventError} :
    ((e.perform now).run.run mesh : Checked _) = .ok (.error error, mesh') ↔
      e.refusal? mesh.fleet = some error ∧ mesh' = mesh := by
  rw [perform_eq]
  cases h : e.refusal? mesh.fleet with
  | none => cases e.effect now mesh <;> simp
  | some reason => simp [eq_comm]

theorem executable_perform_eq (e : Event) (now : Time) (mesh : Mesh φ) :
    ((Executable.perform e now).run.run mesh : Checked (Except String Unit × Mesh φ)) =
      (fun r => (r.1.mapError EventError.message, r.2)) <$> (e.perform now).run.run mesh := by
  change (Except.mapError EventError.message <$> (e.perform now).run).run mesh = _
  rw [StateT.run_map]

theorem atomic : Worklist.Atomic Event (Mesh φ) := by
  intro e now mesh mesh' error h
  rw [executable_perform_eq] at h
  obtain ⟨⟨verdict, d⟩, hp, he⟩ := Checked.map_eq_ok.1 h
  cases verdict with
  | ok _ => cases he
  | error reason =>
    cases he
    exact (perform_eq_error_iff.1 hp).2

theorem failure_is_atomic (now : Time) (mesh : Mesh φ) :
    (∀ (e : Event) (mesh' : Mesh φ),
      (∃ error, ((e.perform now).run.run mesh : Checked _) = .ok (.error error, mesh')) ↔
        e.Fails mesh.fleet ∧ mesh' = mesh) ∧
    (∀ (e : Event) (error : EventError) (mesh' : Mesh φ),
      ((e.perform now).run.run mesh : Checked _) = .ok (.error error, mesh') →
        e.Blames error ∧ (∀ id, error ≠ .node (.alreadyRunning id)) ∧
          ∀ min max, error ≠ .condition (.latencyBounds min max)) ∧
    ∀ (a a' : Agenda Event) (mesh' : Mesh φ) (count : Nat),
      a.run now mesh = .ok (count, a', mesh') →
        ∃ verdicts, Worklist.perform now (a.pending.ready now) mesh = .ok (verdicts, mesh') ∧
          ∃ b, (Agenda.ofTasks (Worklist.succeeded verdicts)).run now mesh =
            .ok (count, b, mesh') ∧ b.failures = [] := by
  refine ⟨fun e mesh' => ?_, fun e error mesh' h => ?_, fun a a' mesh' count h => ?_⟩
  · rw [fails_iff, ← exists_and_right]
    exact exists_congr fun _ => perform_eq_error_iff
  · have blames := blames_of_refusal? (perform_eq_error_iff.1 h).1
    exact ⟨blames, blames.ne⟩
  · exact Agenda.run_ofTasks_succeeded atomic h

theorem failure_is_atomic_unmanaged_crash :
    let mesh : Mesh Builtin := { network := .seeded 1 }
    let a : Agenda Event := (Agenda.schedule ∅ (.crash ⟨7⟩) 3).schedule (.drop ⟨⟨1⟩, ⟨2⟩⟩) 4
    (∃ error, ((crash ⟨7⟩).perform 5).run.run mesh = .ok (.error error, mesh) ∧
      error = .node (.notFound ⟨7⟩)) ∧
      ∃ a' mesh', a.run 5 mesh = .ok (1, a', mesh') ∧ a'.failures ≠ [] ∧
        ∃ verdicts, Worklist.perform 5 (a.pending.ready 5) mesh = .ok (verdicts, mesh') ∧
          ∃ b, (Agenda.ofTasks (Worklist.succeeded verdicts)).run 5 mesh = .ok (1, b, mesh') ∧
            b.failures = [] := by
  intro mesh a
  obtain ⟨hf, hb, hr⟩ := failure_is_atomic 5 mesh
  obtain ⟨error, he⟩ := (hf (crash ⟨7⟩) mesh).2 ⟨rfl, rfl⟩
  refine ⟨⟨error, he, (hb _ _ _ he).1⟩, ?_⟩
  exact ⟨_, _, rfl, by decide +kernel, hr _ _ _ _ rfl⟩

end Event

end MeshNet
