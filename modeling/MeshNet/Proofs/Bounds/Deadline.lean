import MeshNet.Proofs.Bounds.Law
import MeshNet.Proofs.Firmware.Lifetime

namespace MeshNet.Builtin

variable {b : Builtin} {p : Periodic} {settings : Settings} {v : View} {c : Callback} {last : Nat}
  {fault : Fault}

def Rearms (interval last : Nat) (v : View) (c : Callback) : Prop :=
  c = .setup ∨ c = .tick ∧ last + interval ≤ v.now.toNat

instance (interval last : Nat) (v : View) (c : Callback) : Decidable (Rearms interval last v c) :=
  inferInstanceAs (Decidable (_ ∨ _))

theorem rearms_setup (interval last : Nat) (v : View) : Rearms interval last v .setup := .inl rfl

theorem rearms_tick_iff {interval : Nat} :
    Rearms interval last v .tick ↔ last + interval ≤ v.now.toNat := by
  simp [Rearms]

theorem not_rearms {interval : Nat} (setup : c ≠ .setup) (ticks : c ≠ .tick) :
    ¬ Rearms interval last v c :=
  not_or.mpr ⟨setup, fun h => ticks h.1⟩

theorem react_eq_error (kind : b.periodic? = some p) (awaits : b.Awaits settings last)
    (same : c = .setup → v.settings = settings) :
    Firmware.react b v c = .error fault ↔
      fault = .deadlineOverflow ∧ Rearms (p.interval settings) last v c ∧
        2 ^ 64 ≤ v.now.toNat + p.interval settings := by
  by_cases setup : c = .setup
  · subst setup
    simp only [react_setup_eq_error kind, same rfl, rearms_setup, true_and]
  · by_cases ticks : c = .tick
    · subst ticks
      rw [react_tick_eq_error kind awaits, rearms_tick_iff]
    · obtain ⟨r, hr, -⟩ := exists_react_other kind awaits setup ticks
      rw [hr]
      exact ⟨nofun, fun h => absurd h.2.1 (not_rearms setup ticks)⟩

theorem awaits_of_react {r : Reaction Builtin} (kind : b.periodic? = some p)
    (awaits : b.Awaits settings last) (same : c = .setup → v.settings = settings)
    (h : Firmware.react b v c = .ok r) :
    r.state.Awaits settings
      (if Rearms (p.interval settings) last v c then v.now.toNat else last) := by
  by_cases setup : c = .setup
  · subst setup
    rw [if_pos (rearms_setup ..), ← same rfl]
    exact (awaits_of_setup kind h).1
  · by_cases ticks : c = .tick
    · subst ticks
      have turn := awaits_of_tick kind awaits h
      simp only [rearms_tick_iff]
      split at turn
      · next due => exact if_pos due ▸ turn.1
      · next early => exact if_neg early ▸ turn.1
    · obtain ⟨r', hr', awaits', -⟩ := exists_react_other kind awaits setup ticks
      cases hr'.symm.trans h
      rw [if_neg (not_rearms setup ticks)]
      exact awaits'

def armings (interval : Nat) : Nat → List (View × Callback) → List Nat
  | _, [] => []
  | last, (v, c) :: script =>
    if Rearms interval last v c then v.now.toNat :: armings interval v.now.toNat script
    else armings interval last script

theorem mem_armings_cons {interval t : Nat} {script : List (View × Callback)} :
    t ∈ armings interval last ((v, c) :: script) ↔ Rearms interval last v c ∧ t = v.now.toNat ∨
      t ∈ armings interval (if Rearms interval last v c then v.now.toNat else last) script := by
  rw [armings]
  split
  · next rearms => rw [List.mem_cons, and_iff_right rearms]
  · next keeps => rw [or_iff_right fun h => keeps h.1]

theorem play_cons_eq_error {script : List (View × Callback)} {out later : Prop}
    (first : ∀ raised, Firmware.react b v c = .error raised ↔ raised = .deadlineOverflow ∧ out)
    (rest : ∀ r : Reaction Builtin, Firmware.react b v c = .ok r →
      (r.state.play script = .error fault ↔ fault = .deadlineOverflow ∧ later)) :
    b.play ((v, c) :: script) = .error fault ↔ fault = .deadlineOverflow ∧ (out ∨ later) := by
  have split : b.play ((v, c) :: script) = .error fault ↔ Firmware.react b v c = .error fault ∨
      ∃ r : Reaction Builtin, Firmware.react b v c = .ok r ∧ r.state.play script = .error fault :=
    Checked.bind_eq_error.trans <| or_congr_right <| exists_congr fun _ =>
      and_congr_right fun _ => Checked.map_eq_error
  rw [split]
  cases hr : Firmware.react b v c with
  | error raised =>
    obtain ⟨rfl, failed⟩ := (first raised).mp hr
    simp [failed, eq_comm]
  | ok r =>
    have fits : ¬ out := fun failed => by
      cases hr.symm.trans ((first .deadlineOverflow).mpr ⟨rfl, failed⟩)
    simp [fits, rest r hr]

theorem play_eq_error (kind : b.periodic? = some p) (awaits : b.Awaits settings last)
    {script : List (View × Callback)} (same : ∀ o ∈ script, o.2 = .setup → o.1.settings = settings) :
    b.play script = .error fault ↔ fault = .deadlineOverflow ∧
      ∃ t ∈ armings (p.interval settings) last script, 2 ^ 64 ≤ t + p.interval settings := by
  -- Each call that goes well leaves a timer that waits from its own time or from where it did.
  induction script generalizing b last with
  | nil => exact ⟨nofun, fun ⟨_, t, ht, _⟩ => absurd ht List.not_mem_nil⟩
  | cons o script ih =>
    obtain ⟨v, c⟩ := o
    obtain ⟨first, later⟩ := List.forall_mem_cons.mp same
    rw [play_cons_eq_error (fun _ => react_eq_error kind awaits first) fun r hr =>
      ih ((periodic?_react hr).trans kind) (awaits_of_react kind awaits first hr) later]
    simp only [mem_armings_cons, or_and_right, exists_or, and_assoc, exists_and_left,
      exists_eq_left]

theorem play_session_eq_error (kind : b.periodic? = some p) {script : List (View × Callback)}
    (same : ∀ o ∈ script, o.2 = .setup → o.1.settings = v.settings) :
    b.play ((v, .setup) :: script) = .error fault ↔ fault = .deadlineOverflow ∧
      ∃ t ∈ v.now.toNat :: armings (p.interval v.settings) v.now.toNat script,
        2 ^ 64 ≤ t + p.interval v.settings := by
  -- A setup does not look at the timer, which need not wait for anything before that.
  rw [play_cons_eq_error (fun _ => react_setup_eq_error kind) fun r hr =>
    play_eq_error ((periodic?_react hr).trans kind) (awaits_of_setup kind hr).1 same]
  simp only [List.mem_cons, exists_eq_or_imp]

theorem awaits_of_play {d : Builtin} {spoken : List Call} (kind : b.periodic? = some p)
    (awaits : b.Awaits settings last) {script : List (View × Callback)}
    (same : ∀ o ∈ script, o.2 = .setup → o.1.settings = settings)
    (h : b.play script = .ok (spoken, d)) :
    d.Awaits settings ((armings (p.interval settings) last script).getLastD last) := by
  induction script generalizing b last spoken with
  | nil =>
    cases h
    exact awaits
  | cons o script ih =>
    obtain ⟨v, c⟩ := o
    obtain ⟨first, later⟩ := List.forall_mem_cons.mp same
    obtain ⟨r, more, hr, hp, -⟩ := play_cons_eq_ok.mp h
    have rest := ih ((periodic?_react hr).trans kind) (awaits_of_react kind awaits first hr) later hp
    rw [armings]
    split
    · next rearms =>
      rw [if_pos rearms] at rest
      rwa [List.getLastD_cons]
    · next keeps =>
      rw [if_neg keeps] at rest
      exact rest

def deadline? : Builtin → Option Time
  | echoServer _ => none
  | echoClient c => some c.timer.deadline
  | beacon b => some b.timer.deadline

theorem Awaits.deadline (awaits : b.Awaits settings last) (kind : b.periodic? = some p) :
    ∃ deadline, b.deadline? = some deadline ∧ deadline.toNat = last + p.interval settings := by
  cases b with
  | echoServer s => cases kind
  | echoClient s =>
    cases kind
    exact ⟨_, rfl, awaits.2.deadline⟩
  | beacon s =>
    cases kind
    exact ⟨_, rfl, Timer.Waits.deadline awaits⟩

theorem faults_iff_deadline_out_of_range (v : View) (script : List (View × Callback))
    (kind : b.periodic? = some p) (same : ∀ o ∈ script, o.2 = .setup → o.1.settings = v.settings) :
    let interval := p.interval v.settings
    let armed := armings interval v.now.toNat script
    (∀ fault, b.play ((v, .setup) :: script) = .error fault ↔
      fault = .deadlineOverflow ∧ ∃ t ∈ v.now.toNat :: armed, 2 ^ 64 ≤ t + interval) ∧
    ∀ spoken d, b.play ((v, .setup) :: script) = .ok (spoken, d) →
      ∃ deadline, d.deadline? = some deadline ∧
        deadline.toNat = armed.getLastD v.now.toNat + interval ∧
        armed.getLastD v.now.toNat < deadline.toNat := by
  intro interval armed
  refine ⟨fun fault => play_session_eq_error kind same, fun spoken d h => ?_⟩
  obtain ⟨r, kind', awaits, -, hp⟩ := play_setup kind h
  obtain ⟨deadline, due, sum⟩ :=
    (awaits_of_play kind' awaits same hp).deadline ((periodic?_play hp).trans kind')
  exact ⟨deadline, due, sum, sum ▸ Nat.lt_add_of_pos_right (p.interval_pos v.settings)⟩

theorem faults_iff_deadline_out_of_range_late_restart :
    let shown (now : Time) : View :=
      { self := ⟨3⟩, now, settings := .ofList [("broadcast_interval", "18446744073709551600")],
        peers := [⟨4⟩] }
    let session : List (View × Callback) := [(shown 0, .setup), (shown 100, .tick)]
    (∃ spoken d, (beacon {}).play session = .ok (spoken, d) ∧
      d.deadline?.map (·.toNat) = some 18446744073709551600) ∧
    (beacon {}).play (session ++ [(shown 110, .setup)]) = .error .deadlineOverflow := by
  intro shown session
  have interval : Periodic.greetings.interval (shown 0).settings = 18446744073709551600 := by
    decide +kernel
  constructor
  · obtain ⟨-, deadline⟩ := faults_iff_deadline_out_of_range (b := beacon {}) (p := .greetings)
      (shown 0) [(shown 100, .tick)] rfl (by decide +kernel)
    have run : (fun _ => ()) <$> (beacon {}).play session = .ok () := by
      decide +kernel
    obtain ⟨⟨spoken, d⟩, played, -⟩ := Checked.map_eq_ok.mp run
    obtain ⟨t, due, sum, -⟩ := deadline spoken d played
    refine ⟨spoken, d, played, ?_⟩
    rw [due, Option.map_some, sum, interval]
    decide +kernel
  · obtain ⟨failed, -⟩ := faults_iff_deadline_out_of_range (b := beacon {}) (p := .greetings)
      (shown 0) [(shown 100, .tick), (shown 110, .setup)] rfl (by decide +kernel)
    refine (failed .deadlineOverflow).mpr ⟨rfl, 110, ?_, ?_⟩
    · rw [interval]
      decide +kernel
    · rw [interval]
      decide

theorem fault_of_driveAll {catalogue : Catalogue Builtin} {setup : Setup}
    {entropy : Random.Generator} {s : Simulation Builtin}
    (built : Simulation.ofSetup catalogue setup entropy = .ok s) {ds : List Drive}
    (h : s.driveAll ds = .error fault) : fault = .deadlineOverflow := by
  have yields := Simulation.driveAll_yields (Simulation.timely_and_tracked_ofSetup built).1 ds
  rw [h] at yields
  obtain ⟨b, v, c, raised⟩ := yields
  exact fault_of_react raised

theorem setting_ends_simulation :
    let settings : Settings := .ofList [("request_interval", "18446744073709551615")]
    let setup : Setup :=
      { network := { seed := some 1 },
        nodes := [{ id := ⟨1⟩, firmware := "echo-client", settings }] }
    ∃ s, Simulation.ofSetup .builtins setup (.ofSeed 0) = .ok s ∧
      s.driveAll [.schedule (.start ⟨1⟩) 1, .advance 1, .advance 20] =
        .error .deadlineOverflow := by
  intro settings setup
  have run : ((Simulation.ofSetup .builtins setup (.ofSeed 0)).map fun s =>
      (fun _ => ()) <$> s.driveAll [.schedule (.start ⟨1⟩) 1, .advance 1, .advance 20]) =
        .ok (.error .deadlineOverflow) := by
    decide +kernel
  obtain ⟨s, built, fails⟩ := exists_of_map_eq_ok run
  exact ⟨s, built, Checked.map_eq_error.mp fails⟩

end MeshNet.Builtin
