import MeshNet.Proofs.Firmware.Protocol
import MeshNet.Proofs.Simulation.History

namespace MeshNet

namespace Timeline

variable {α : Type}

theorem mem_insert {q : Timeline α} {t : Time} {a : α} {w : Waiting α} :
    w ∈ (q.insert t a).queue ↔ w = ⟨t, q.arrivals, a⟩ ∨ w ∈ q.queue := by
  rw [(q.queue_insert_perm t a).mem_iff, List.mem_cons]

theorem mem_foldl_insert {q : Timeline α} {es : List (Time × α)} {w : Waiting α} :
    w ∈ (es.foldl (fun q e => q.insert e.1 e.2) q).queue ↔
      w ∈ q.queue ∨ w ∈ Waiting.enumerate q.arrivals es := by
  induction es generalizing q with
  | nil => simp [Waiting.enumerate]
  | cons e es ih =>
    rw [List.foldl_cons, ih, mem_insert, Waiting.enumerate, List.mem_cons]
    tauto

theorem arrivals_foldl_insert (q : Timeline α) (es : List (Time × α)) :
    (es.foldl (fun q e => q.insert e.1 e.2) q).arrivals = q.arrivals + es.length := by
  induction es generalizing q with
  | nil => rfl
  | cons e es ih =>
    rw [List.foldl_cons, ih, List.length_cons]
    change q.arrivals + 1 + es.length = _
    omega

theorem map_number_enumerate (first : Nat) (es : List (Time × α)) :
    (Waiting.enumerate first es).map (·.number) = List.range' first es.length := by
  induction es generalizing first with
  | nil => rfl
  | cons e es ih => rw [Waiting.enumerate, List.map_cons, ih, List.length_cons, List.range'_succ]

theorem mem_after {q : Timeline α} {now : Time} {w : Waiting α} :
    w ∈ (q.after now).queue ↔ w ∈ q.queue ∧ ¬ w.time ≤ now := by
  rw [queue_after_eq_filter, List.mem_filter, decide_eq_true_iff, UInt64.not_le]

theorem mem_ready {q : Timeline α} {now : Time} {w : Waiting α} :
    w ∈ q.ready now ↔ w ∈ q.queue ∧ w.time ≤ now := by
  rw [ready_eq_filter, List.mem_filter, decide_eq_true_iff]

end Timeline

def MeshOp.discards {φ : Type} : MeshOp φ → Bool
  | network .clear | network (.drain _) => true
  | _ => false

def SimulationOp.discards {φ : Type} : SimulationOp φ → Bool
  | mesh op => op.discards
  | schedule _ _ | clearAgenda | takeFailures | advance _ | runUntil _ _ => false

variable {φ : Type} [Firmware φ]

namespace Stage

structure Moves (s : Stage φ) : Prop where
  queue : ∀ w, w ∈ s.after.network.inFlight.queue ↔
    w ∈ s.before.network.inFlight.queue ∧ ¬ s.Reaches w.time ∨ w ∈ s.admitted
  numbers : s.admitted.map (·.number) =
    List.range' s.before.network.inFlight.arrivals s.admitted.length
  arrivals : s.after.network.inFlight.arrivals =
    s.before.network.inFlight.arrivals + s.admitted.length

omit [Firmware φ] in
theorem mem_handled {s : Stage φ} {w : Waiting Message} :
    w ∈ s.handled ↔ w ∈ s.before.network.inFlight.queue ∧ s.Reaches w.time := by
  rw [handled, Reaches]
  split
  · next now hop =>
    simp only [hop, Timeline.mem_ready, MeshOp.update.injEq, exists_eq_left']
  · next other =>
    constructor
    · intro h
      cases h
    · rintro ⟨-, now, hop, -⟩
      exact (other now hop).elim

theorem Moves.of_inserted {s : Stage φ} (kept : Timeline Message) {es : List (Time × Message)}
    (queue : ∀ w, w ∈ kept.queue ↔ w ∈ s.before.network.inFlight.queue ∧ ¬ s.Reaches w.time)
    (arrivals : kept.arrivals = s.before.network.inFlight.arrivals)
    (inserted : s.after.network.inFlight = es.foldl (fun q e => q.insert e.1 e.2) kept)
    (admitted : s.admitted = Waiting.enumerate s.before.network.inFlight.arrivals es) :
    s.Moves := by
  have numbers := Timeline.map_number_enumerate s.before.network.inFlight.arrivals es
  have length := congrArg List.length numbers
  rw [List.length_map, List.length_range'] at length
  refine ⟨fun w => ?_, ?_, ?_⟩
  · rw [inserted, Timeline.mem_foldl_insert, queue, arrivals, admitted]
  · rw [admitted, numbers, length]
  · rw [inserted, Timeline.arrivals_foldl_insert, arrivals, admitted, length]

theorem Moves.of_frame {s : Stage φ} (other : ∀ now, s.op ≠ .update now)
    (es : List (Time × Message))
    (inserted : s.after.network.inFlight =
      es.foldl (fun q e => q.insert e.1 e.2) s.before.network.inFlight)
    (admitted : s.admitted = Waiting.enumerate s.before.network.inFlight.arrivals es) :
    s.Moves := by
  refine .of_inserted s.before.network.inFlight (fun w => ?_) rfl inserted admitted
  have unreached : ¬ s.Reaches w.time := fun ⟨now, hop, _⟩ => other now hop
  rw [and_iff_left unreached]

theorem moves {op : MeshOp φ} {before after : Mesh φ} {events : List Event}
    (h : before.step op = .ok (events, after)) (keeps : op.discards = false) :
    Moves ⟨op, before, after⟩ := by
  cases op with
  | execute e now =>
    obtain ⟨⟨verdict, mesh⟩, hp, h⟩ := Checked.bind_eq_ok.1 h
    cases h
    exact .of_frame nofun [] (Event.perform_frame hp).1 rfl
  | update now =>
    obtain ⟨⟨report, mesh⟩, hu, h⟩ := Checked.bind_eq_ok.1 h
    cases h
    obtain ⟨x, hx, -, updated⟩ := Mesh.update_spec hu
    refine .of_inserted (before.network.inFlight.after now) (fun w => ?_) rfl updated.inFlight ?_
    · simp only [Timeline.mem_after, Reaches, MeshOp.update.injEq, exists_eq_left']
    · simp only [admitted, hx]
  | network op =>
    cases h
    cases op with
    | enqueue m now =>
      obtain ⟨ht, hq, -⟩ | ⟨latency, ht, hq, -⟩ := before.network.enqueue_cases m now
      · refine .of_frame nofun [] hq ?_
        simp only [admitted, ht]
        rfl
      · refine .of_frame nofun [(now.advance latency.toUInt64, m)] hq ?_
        simp only [admitted, ht]
        rfl
    | drops l => exact .of_frame nofun [] (before.network.drops_frame l).1 rfl
    | configure setting =>
      exact .of_frame nofun [] (before.network.configure_frame setting).1 rfl
    | cut l | mend l | mendAll | resetTraffic => exact .of_frame nofun [] rfl rfl
    | clear | drain now => cases keeps
  | fleet op =>
    obtain ⟨fleet, -, h⟩ := Checked.bind_eq_ok.1 h
    cases h
    exact .of_frame nofun [] rfl rfl

theorem Moves.le_number {s : Stage φ} (h : s.Moves) {w : Waiting Message} (hw : w ∈ s.admitted) :
    s.before.network.inFlight.arrivals ≤ w.number := by
  have mem : w.number ∈ s.admitted.map (·.number) := List.mem_map_of_mem hw
  rw [h.numbers, List.mem_range'_1] at mem
  exact mem.1

theorem Moves.number_lt {s : Stage φ} (h : s.Moves) {w : Waiting Message} (hw : w ∈ s.admitted) :
    w.number < s.after.network.inFlight.arrivals := by
  have mem : w.number ∈ s.admitted.map (·.number) := List.mem_map_of_mem hw
  rw [h.numbers, List.mem_range'_1] at mem
  rw [h.arrivals]
  exact mem.2

namespace Link

variable {a b : Mesh φ} {s : Stage φ} {stages : List (Stage φ)} {w : Waiting Message}

theorem uncons (h : Link a (s :: stages) b) (keeps : ∀ t ∈ s :: stages, t.op.discards = false) :
    s.before = a ∧ s.Moves ∧ Link s.after stages b ∧ ∀ t ∈ stages, t.op.discards = false := by
  obtain ⟨rfl, ⟨events, step⟩, rest⟩ := h
  rw [List.forall_mem_cons] at keeps
  exact ⟨rfl, moves step keeps.1, rest, keeps.2⟩

theorem le_number (h : Link a stages b) (keeps : ∀ s ∈ stages, s.op.discards = false)
    (hs : s ∈ stages) (hw : w ∈ s.admitted) : a.network.inFlight.arrivals ≤ w.number := by
  induction stages generalizing a with
  | nil => cases hs
  | cons first stages ih =>
    obtain ⟨rfl, moves, rest, keeps'⟩ := h.uncons keeps
    rcases List.mem_cons.1 hs with rfl | hs
    · exact moves.le_number hw
    · have later := ih rest keeps' hs
      rw [moves.arrivals] at later
      omega

theorem not_mem_handled (h : Link a stages b) (keeps : ∀ s ∈ stages, s.op.discards = false)
    (known : w.number < a.network.inFlight.arrivals) (gone : w ∉ a.network.inFlight.queue)
    (hs : s ∈ stages) : w ∉ s.handled := by
  induction stages generalizing a with
  | nil => cases hs
  | cons first stages ih =>
    obtain ⟨rfl, moves, rest, keeps'⟩ := h.uncons keeps
    rcases List.mem_cons.1 hs with rfl | hs
    · rw [mem_handled]
      exact fun hw => gone hw.1
    · refine ih rest keeps' ?_ ?_ hs
      · rw [moves.arrivals]
        omega
      · rw [moves.queue]
        rintro (⟨waits, -⟩ | admitted)
        · exact gone waits
        · exact Nat.not_lt.2 (moves.le_number admitted) known

theorem handled_iff_of_waits (h : Link a stages b) (keeps : ∀ s ∈ stages, s.op.discards = false)
    (waits : w ∈ a.network.inFlight.queue) {j : Nat} (hj : stages[j]? = some s) :
    w ∈ s.handled ↔ s.Reaches w.time ∧
      ∀ k u, k < j → stages[k]? = some u → ¬ u.Reaches w.time := by
  induction stages generalizing a j with
  | nil => cases hj
  | cons first stages ih =>
    have known := a.network.inFlight.numbered w waits
    obtain ⟨rfl, moves, rest, keeps'⟩ := h.uncons keeps
    cases j with
    | zero =>
      cases hj
      rw [mem_handled, and_iff_right waits]
      exact ⟨fun reaches => ⟨reaches, fun k u hk => by omega⟩, fun h => h.1⟩
    | succ j =>
      rw [List.getElem?_cons_succ] at hj
      by_cases reached : first.Reaches w.time
      · have gone : w ∉ first.after.network.inFlight.queue := by
          rw [moves.queue]
          rintro (⟨-, unreached⟩ | admitted)
          · exact unreached reached
          · exact Nat.not_lt.2 (moves.le_number admitted) known
        have known' : w.number < first.after.network.inFlight.arrivals := by
          rw [moves.arrivals]
          omega
        constructor
        · intro hw
          exact (rest.not_mem_handled keeps' known' gone (List.mem_of_getElem? hj) hw).elim
        · rintro ⟨-, unreached⟩
          exact (unreached 0 first (Nat.succ_pos j) rfl reached).elim
      · rw [ih rest keeps' ((moves.queue w).2 (.inl ⟨waits, reached⟩)) hj]
        refine and_congr_right fun _ => ⟨fun h k u hk hu => ?_, fun h k u hk hu => ?_⟩
        · cases k with
          | zero =>
            cases hu
            exact reached
          | succ k => exact h k u (by omega) hu
        · exact h (k + 1) u (by omega) hu

omit [Firmware φ] in
theorem forall_between_cons {i j : Nat} {P : Stage φ → Prop} :
    (∀ k u, i < k → k < j + 1 → (s :: stages)[k]? = some u → P u) ↔
      ∀ k u, i < k + 1 → k < j → stages[k]? = some u → P u := by
  refine ⟨fun h k u hk hkj hu => h (k + 1) u hk (by omega) hu, fun h k u hk hkj hu => ?_⟩
  cases k with
  | zero => omega
  | succ k => exact h k u hk (by omega) hu

theorem handled_iff (h : Link a stages b) (keeps : ∀ s ∈ stages, s.op.discards = false)
    {i j : Nat} {t : Stage φ} (hi : stages[i]? = some s) (hw : w ∈ s.admitted)
    (hj : stages[j]? = some t) :
    w ∈ t.handled ↔ i < j ∧ t.Reaches w.time ∧
      ∀ k u, i < k → k < j → stages[k]? = some u → ¬ u.Reaches w.time := by
  induction stages generalizing a i j with
  | nil => cases hi
  | cons first stages ih =>
    have early := h.le_number keeps (List.mem_of_getElem? hi) hw
    obtain ⟨rfl, moves, rest, keeps'⟩ := h.uncons keeps
    cases j with
    | zero =>
      cases hj
      constructor
      · intro handled
        have known := t.before.network.inFlight.numbered w (mem_handled.1 handled).1
        omega
      · rintro ⟨later, -⟩
        omega
    | succ j =>
      rw [List.getElem?_cons_succ] at hj
      cases i with
      | zero =>
        cases hi
        rw [rest.handled_iff_of_waits keeps' ((moves.queue w).2 (.inr hw)) hj]
        simp only [forall_between_cons, Nat.succ_pos, true_and, true_imp_iff]
      | succ i =>
        rw [List.getElem?_cons_succ] at hi
        rw [ih rest keeps' hi hj]
        simp only [forall_between_cons, Nat.add_lt_add_iff_right]

theorem origin (h : Link a stages b) (keeps : ∀ s ∈ stages, s.op.discards = false) {j : Nat}
    (hj : stages[j]? = some s) (hw : w ∈ s.handled) :
    w ∈ a.network.inFlight.queue ∨ ∃ i t, i < j ∧ stages[i]? = some t ∧ w ∈ t.admitted := by
  induction stages generalizing a j with
  | nil => cases hj
  | cons first stages ih =>
    obtain ⟨rfl, moves, rest, keeps'⟩ := h.uncons keeps
    cases j with
    | zero =>
      cases hj
      exact .inl (mem_handled.1 hw).1
    | succ j =>
      rcases ih rest keeps' hj with
        waits | ⟨i, t, hi, ht, admitted⟩
      · rcases (moves.queue w).1 waits with ⟨waits, -⟩ | admitted
        · exact .inl waits
        · exact .inr ⟨0, first, Nat.succ_pos j, rfl, admitted⟩
      · exact .inr ⟨i + 1, t, by omega, ht, admitted⟩

theorem numbers_ascending (h : Link a stages b) (keeps : ∀ s ∈ stages, s.op.discards = false) :
    (stages.flatMap (·.admitted)).Pairwise (·.number < ·.number) := by
  induction stages generalizing a with
  | nil => exact .nil
  | cons first stages ih =>
    obtain ⟨rfl, moves, rest, keeps'⟩ := h.uncons keeps
    rw [List.flatMap_cons, List.pairwise_append]
    refine ⟨?_, ih rest keeps', fun v hv w hw => ?_⟩
    · have ascending : (first.admitted.map (·.number)).Pairwise (· < ·) := by
        rw [moves.numbers]
        exact List.pairwise_lt_range'
      exact List.pairwise_map.1 ascending
    · obtain ⟨s, hs, hw⟩ := List.mem_flatMap.1 hw
      exact Nat.lt_of_lt_of_le (moves.number_lt hv) (rest.le_number keeps' hs hw)

end Link

end Stage

end MeshNet
