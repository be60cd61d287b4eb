import MeshNet.Proofs.Firmware.Periodic
import MeshNet.Proofs.Firmware.Upheld

namespace MeshNet

namespace Builtin

variable {b d : Builtin} {p : Periodic} {settings : Settings} {v : View} {c : Callback}
  {r : Reaction Builtin} {last : Nat}

def utterance (b : Builtin) (v : View) (c : Callback) (r : Reaction Builtin) : List Call :=
  if r.state.fired = b.fired ∧ r.sends = [] then [] else [⟨v, c, r.sends⟩]

theorem Silent.utterance (h : b.Silent r) : b.utterance v c r = [] := if_pos ⟨h.fired, h.sends⟩

theorem Speaks.utterance (h : b.Speaks p settings v r) :
    b.utterance v c r = [⟨v, c, p.message settings b.fired v⟩] := by
  rw [Builtin.utterance, if_neg fun same => ?_, h.sends]
  have next := h.fired
  omega

theorem sends_eq_utterance (b : Builtin) (v : View) (c : Callback) (r : Reaction Builtin) :
    r.sends = (b.utterance v c r).flatMap (·.sends) := by
  rw [utterance]
  split
  · next silent => exact silent.2
  · exact (List.flatMap_singleton ..).symm

def play (b : Builtin) : List (View × Callback) → Checked (List Call × Builtin)
  | [] => .ok ([], b)
  | (v, c) :: script => do
    let reaction ← Firmware.react b v c
    let (spoken, d) ← reaction.state.play script
    return (b.utterance v c reaction ++ spoken, d)

variable {script : List (View × Callback)} {spoken : List Call}

theorem play_cons_eq_ok :
    b.play ((v, c) :: script) = .ok (spoken, d) ↔
      ∃ r later, Firmware.react b v c = .ok r ∧ r.state.play script = .ok (later, d) ∧
        b.utterance v c r ++ later = spoken := by
  constructor
  · intro h
    obtain ⟨r, hr, h⟩ := Checked.bind_eq_ok.1 h
    obtain ⟨⟨later, e⟩, hp, h⟩ := Checked.bind_eq_ok.1 h
    cases h
    exact ⟨r, later, hr, hp, rfl⟩
  · rintro ⟨r, later, hr, hp, rfl⟩
    exact Checked.bind_eq_ok.2 ⟨r, hr, Checked.bind_eq_ok.2 ⟨(later, d), hp, rfl⟩⟩

theorem play_concat (h : b.play script = .ok (spoken, d)) (hr : Firmware.react d v c = .ok r) :
    b.play (script ++ [(v, c)]) = .ok (spoken ++ d.utterance v c r, r.state) := by
  induction script generalizing b spoken with
  | nil =>
    cases h
    exact play_cons_eq_ok.2 ⟨r, [], hr, rfl, List.append_nil _⟩
  | cons o script ih =>
    obtain ⟨r', later, ho, hp, rfl⟩ := play_cons_eq_ok.1 h
    exact play_cons_eq_ok.2 ⟨r', _, ho, ih hp, (List.append_assoc ..).symm⟩

theorem periodic?_play (h : b.play script = .ok (spoken, d)) : d.periodic? = b.periodic? := by
  induction script generalizing b spoken with
  | nil =>
    cases h
    rfl
  | cons o script ih =>
    obtain ⟨r, later, ho, hp, -⟩ := play_cons_eq_ok.1 h
    exact (ih hp).trans (periodic?_react ho)

structure Tells (p : Periodic) (settings : Settings) (b d : Builtin) (spoken : List Call) :
    Prop where
  counted : d.fired = b.fired + spoken.length
  said : ∀ (k : Nat) (call : Call), spoken[k]? = some call →
    call.callback = .tick ∧ call.sends = p.message settings (b.fired + k) call.view

theorem Tells.cons (h : r.state.Tells p settings d spoken)
    (speaks : b.Speaks p settings v r) :
    b.Tells p settings d (⟨v, .tick, p.message settings b.fired v⟩ :: spoken) := by
  have next := speaks.fired
  refine ⟨?_, fun k told hk => ?_⟩
  · rw [h.counted, next, List.length_cons, Nat.add_assoc, Nat.add_comm 1]
  · cases k with
    | zero =>
      cases hk
      exact ⟨rfl, rfl⟩
    | succ k =>
      have said := h.said k told hk
      rwa [next, Nat.add_assoc, Nat.add_comm 1] at said

theorem Tells.of_silent (h : r.state.Tells p settings d spoken) (silent : b.Silent r) :
    b.Tells p settings d spoken := by
  obtain ⟨counted, said⟩ := h
  rw [silent.fired] at counted
  simp only [silent.fired] at said
  exact ⟨counted, said⟩

theorem tells_of_play (kind : b.periodic? = some p) (awaits : b.Awaits settings last)
    (same : ∀ o ∈ script, o.2 = .setup → o.1.settings = settings)
    (h : b.play script = .ok (spoken, d)) : b.Tells p settings d spoken := by
  -- The timer may wait from anywhere, since only the count decides what is said.
  induction script generalizing b last spoken with
  | nil =>
    cases h
    exact ⟨rfl, nofun⟩
  | cons o script ih =>
    obtain ⟨v, c⟩ := o
    rw [List.forall_mem_cons] at same
    obtain ⟨r, later, hr, hp, rfl⟩ := play_cons_eq_ok.1 h
    have kind' := (periodic?_react hr).trans kind
    by_cases setup : c = .setup
    · subst setup
      obtain ⟨awaits', silent⟩ := awaits_of_setup kind hr
      rw [same.1 rfl] at awaits'
      rw [silent.utterance]
      exact (ih kind' awaits' same.2 hp).of_silent silent
    · by_cases ticks : c = .tick
      · subst ticks
        have turn := awaits_of_tick kind awaits hr
        split at turn
        · rw [turn.2.utterance]
          exact (ih kind' turn.1 same.2 hp).cons turn.2
        · rw [turn.2.utterance]
          exact (ih kind' turn.1 same.2 hp).of_silent turn.2
      · obtain ⟨r', hr', awaits', silent⟩ := exists_react_other kind awaits setup ticks
        obtain rfl := Except.ok.inj (hr'.symm.trans hr)
        rw [silent.utterance]
        exact (ih kind' awaits' same.2 hp).of_silent silent

theorem play_setup (kind : b.periodic? = some p)
    (h : b.play ((v, .setup) :: script) = .ok (spoken, d)) :
    ∃ r : Reaction Builtin, r.state.periodic? = some p ∧ r.state.Awaits v.settings v.now.toNat ∧
      b.Silent r ∧ r.state.play script = .ok (spoken, d) := by
  obtain ⟨r, later, hr, hp, rfl⟩ := play_cons_eq_ok.1 h
  obtain ⟨awaits, silent⟩ := awaits_of_setup kind hr
  rw [silent.utterance]
  exact ⟨r, (periodic?_react hr).trans kind, awaits, silent, hp⟩

theorem tells_of_life (kind : b.periodic? = some p) (first : ∀ o ∈ script.head?, o.2 = .setup)
    (same : ∀ o ∈ script, o.1.settings = settings) (h : b.play script = .ok (spoken, d)) :
    b.Tells p settings d spoken := by
  cases script with
  | nil =>
    cases h
    exact ⟨rfl, nofun⟩
  | cons o script =>
    obtain ⟨v, c⟩ := o
    obtain rfl : c = .setup := first (v, c) rfl
    rw [List.forall_mem_cons] at same
    obtain ⟨r, kind', awaits, silent, hp⟩ := play_setup kind h
    rw [same.1] at awaits
    exact (tells_of_play kind' awaits (fun o ho _ => same.2 o ho) hp).of_silent silent

def looks (script : List (View × Callback)) : List Nat :=
  (script.filter (·.2 = .tick)).map (·.1.now.toNat)

theorem looks_tick (v : View) (script : List (View × Callback)) :
    looks ((v, .tick) :: script) = v.now.toNat :: looks script := rfl

theorem looks_of_ne (h : c ≠ .tick) (v : View) (script : List (View × Callback)) :
    looks ((v, c) :: script) = looks script := by
  rw [looks, List.filter_cons_of_neg (by simpa using h), looks]

theorem exists_play (kind : b.periodic? = some p) (awaits : b.Awaits settings last)
    (ordinary : ∀ o ∈ script, o.2 ≠ .setup)
    (fits : ∀ t ∈ looks script, t + p.interval settings < 2 ^ 64) :
    ∃ spoken d, b.play script = .ok (spoken, d) ∧ spoken.map (·.view.now.toNat) =
      Timer.firings (p.interval settings) last (looks script) := by
  induction script generalizing b last with
  | nil => exact ⟨[], b, rfl, rfl⟩
  | cons o script ih =>
    obtain ⟨v, c⟩ := o
    rw [List.forall_mem_cons] at ordinary
    by_cases ticks : c = .tick
    · subst ticks
      rw [looks_tick, List.forall_mem_cons] at fits
      rw [looks_tick]
      obtain ⟨r, hr⟩ := exists_react_tick kind awaits fits.1
      have kind' := (periodic?_react hr).trans kind
      have turn := awaits_of_tick kind awaits hr
      rcases Nat.lt_or_ge v.now.toNat (last + p.interval settings) with early | due
      · rw [if_neg (Nat.not_le.2 early)] at turn
        obtain ⟨later, d, hp, times⟩ := ih kind' turn.1 ordinary.2 fits.2
        refine ⟨_, d, play_cons_eq_ok.2 ⟨r, later, hr, hp, rfl⟩, ?_⟩
        rw [turn.2.utterance, List.nil_append, times, Timer.firings_cons_of_lt early]
      · rw [if_pos due] at turn
        obtain ⟨later, d, hp, times⟩ := ih kind' turn.1 ordinary.2 fits.2
        refine ⟨_, d, play_cons_eq_ok.2 ⟨r, later, hr, hp, rfl⟩, ?_⟩
        rw [turn.2.utterance, List.singleton_append, List.map_cons, times,
          Timer.firings_cons_of_le due]
    · rw [looks_of_ne ticks] at fits ⊢
      obtain ⟨r, hr, awaits', silent⟩ := exists_react_other kind awaits ordinary.1 ticks
      obtain ⟨later, d, hp, times⟩ :=
        ih ((periodic?_react hr).trans kind) awaits' ordinary.2 fits
      refine ⟨_, d, play_cons_eq_ok.2 ⟨r, later, hr, hp, rfl⟩, ?_⟩
      rw [silent.utterance, List.nil_append, times]

theorem exists_play_session (kind : b.periodic? = some p) (ordinary : ∀ o ∈ script, o.2 ≠ .setup)
    (fits : ∀ t ∈ v.now.toNat :: looks script, t + p.interval v.settings < 2 ^ 64) :
    ∃ spoken d, b.play ((v, .setup) :: script) = .ok (spoken, d) ∧
      spoken.map (·.view.now.toNat) =
        Timer.firings (p.interval v.settings) v.now.toNat (looks script) ∧
      b.Tells p v.settings d spoken := by
  rw [List.forall_mem_cons] at fits
  obtain ⟨r, hr⟩ := exists_react_setup kind fits.1
  obtain ⟨awaits, silent⟩ := awaits_of_setup kind hr
  have kind' := (periodic?_react hr).trans kind
  obtain ⟨spoken, d, hp, times⟩ := exists_play kind' awaits ordinary fits.2
  have tells := tells_of_play kind' awaits (fun o ho setup => absurd setup (ordinary o ho)) hp
  refine ⟨spoken, d, play_cons_eq_ok.2 ⟨r, spoken, hr, hp, ?_⟩, times, tells.of_silent silent⟩
  rw [silent.utterance, List.nil_append]

end Builtin

structure Call.Shows (id : NodeId) (settings : Settings) (call : Call) : Prop where
  self : call.view.self = id
  settings : call.view.settings = settings
  peers : Ascending call.view.peers

namespace Recorder

structure Plays (r : Recorder Builtin) (b : Builtin) (spoken : List Call) : Prop where
  played : b.play (r.calls.map fun call => (call.view, call.callback)) = .ok (spoken, r.firmware)
  kept : spoken.Sublist r.calls
  sends : r.calls.flatMap (·.sends) = spoken.flatMap (·.sends)

theorem Plays.blank (b : Builtin) : (Recorder.blank b).Plays b [] := ⟨rfl, .slnil, rfl⟩

theorem Plays.react {r : Recorder Builtin} {b : Builtin} {spoken : List Call} (h : r.Plays b spoken)
    {v : View} {c : Callback} {reaction : Reaction (Recorder Builtin)}
    (hr : Firmware.react r v c = .ok reaction) :
    ∃ more, reaction.state.Plays b (spoken ++ more) := by
  obtain ⟨answer, ha, rfl⟩ := Checked.map_eq_ok.1 hr
  refine ⟨r.firmware.utterance v c answer, ?_, ?_, ?_⟩
  · rw [List.map_append]
    exact Builtin.play_concat h.played ha
  · refine h.kept.append ?_
    rw [Builtin.utterance]
    split
    · exact List.nil_sublist _
    · exact .refl _
  · rw [List.flatMap_append, List.flatMap_append, h.sends, ← Builtin.sends_eq_utterance,
      List.flatMap_singleton]

theorem Plays.tells {r : Recorder Builtin} {b : Builtin} {spoken : List Call} {p : Periodic}
    {settings : Settings} (h : r.Plays b spoken) (kind : r.firmware.periodic? = some p)
    (first : ∀ call ∈ r.calls.head?, call.callback = .setup)
    (same : ∀ call ∈ r.calls, call.view.settings = settings) :
    b.Tells p settings r.firmware spoken := by
  refine Builtin.tells_of_life ((Builtin.periodic?_play h.played).symm.trans kind) ?_ ?_ h.played
  · intro o ho
    rw [List.head?_map] at ho
    obtain ⟨call, hc, rfl⟩ := Option.map_eq_some_iff.1 ho
    exact first call hc
  · intro o ho
    obtain ⟨call, hc, rfl⟩ := List.mem_map.1 ho
    exact same call hc

/-- Since one of the `registered` it did nothing but play, in view of this node. -/
def Lives (registered : Builtin → Prop) (id : NodeId) (settings : Settings)
    (r : Recorder Builtin) : Prop :=
  (∃ b spoken, registered b ∧ r.Plays b spoken) ∧ ∀ call ∈ r.calls, call.Shows id settings

theorem upheld_lives (registered : Builtin → Prop) : Upheld (Lives registered) := by
  rintro v c r reaction shown ⟨⟨b, spoken, origin, plays⟩, shows⟩ hr
  obtain ⟨more, played⟩ := plays.react hr
  refine ⟨⟨b, _, origin, played⟩, ?_⟩
  obtain ⟨answer, -, rfl⟩ := Checked.map_eq_ok.1 hr
  intro call hc
  rcases List.mem_append.1 hc with hc | hc
  · exact shows call hc
  · rw [List.mem_singleton.1 hc]
    exact ⟨rfl, rfl, shown⟩

end Recorder

def MeshOp.Registers {φ : Type} (b : φ) : MeshOp φ → Prop
  | fleet (.create catalogue _) => ∃ name : String, catalogue.entries[name]? = some b
  | _ => False

theorem Builtin.fired_of_registers {spec : NodeSpec} {b : Builtin}
    (h : (MeshOp.fleet (.create .builtins spec)).Registers b) : b.fired = 0 := by
  obtain ⟨name, entry⟩ := h
  have unspent : Catalogue.builtins.entries.values.all (·.fired = 0) := by decide +kernel
  simpa using List.all_eq_true.1 unspent b (MapSum.mem_values entry)

theorem MeshOp.brings_lives {registered : Builtin → Prop} {op : MeshOp Builtin}
    (h : ∀ b, op.Registers b → registered b) :
    (op.mapFirmware Recorder.blank).Brings (Recorder.Lives registered) := by
  cases op with
  | execute e now | update now | network op => trivial
  | fleet op =>
    cases op with
    | create catalogue spec =>
      intro name firmware entry
      rw [Catalogue.map, Std.ExtTreeMap.getElem?_map] at entry
      obtain ⟨b, hb, rfl⟩ := Option.map_eq_some_iff.1 entry
      exact ⟨⟨b, [], h b ⟨name, hb⟩, .blank b⟩, List.forall_mem_nil _⟩
    | add i | remove i now | startAll now | stopAll now | shutdown | call i op
    | adjustTime i now offset => trivial

theorem Node.InSessions.head {φ : Type} {n : Node (Recorder φ)} (h : n.InSessions) :
    ∀ call ∈ n.calls.head?, call.callback = .setup := by
  obtain ⟨past, current, calls, finished, under⟩ := h
  rw [calls]
  cases past with
  | nil =>
    rw [List.flatten_nil, List.nil_append]
    split at under
    · cases current with
      | nil => nofun
      | cons first rest => exact fun call hc => Option.some.inj hc ▸ under.1
    · rw [under]
      nofun
  | cons session past =>
    cases session with
    | nil => exact (finished [] (List.mem_cons_self ..)).elim
    | cons first rest =>
      have begun := (finished _ (List.mem_cons_self ..)).1
      exact fun call hc => Option.some.inj hc ▸ begun

theorem Mesh.lives_of_steps {network : Network} {ops : List (MeshOp Builtin)} {events : List Event}
    {recorded : Mesh (Recorder Builtin)}
    (h : steps (ops.map (·.mapFirmware .blank)) { network } = .ok (events, recorded)) :
    recorded.fleet.Every fun _ n => n.Holds (Recorder.Lives fun b => ∃ op ∈ ops, op.Registers b) := by
  have keyed : ({ network } : Mesh (Recorder Builtin)).fleet.Keyed := Fleet.Every.empty
  refine holds_steps (Recorder.upheld_lives _) keyed Fleet.Every.empty (fun op hop => ?_) h
  obtain ⟨told, ho, rfl⟩ := List.mem_map.1 hop
  exact MeshOp.brings_lives fun b registers => ⟨told, ho, registers⟩

theorem Mesh.periodic_firmware_keeps_its_interval :
    (∀ (b : Builtin) (p : Periodic) (v : View) (script : List (View × Callback)),
      let interval := p.interval v.settings
      let looks := Builtin.looks script
      b.periodic? = some p → (∀ o ∈ script, o.2 ≠ .setup) →
      (v.now.toNat :: looks).Pairwise (· ≤ ·) →
      (∀ t ∈ v.now.toNat :: looks, t + interval < 2 ^ 64) →
      ∃ spoken d, b.play ((v, .setup) :: script) = .ok (spoken, d) ∧
        spoken.map (·.view.now.toNat) = Timer.firings interval v.now.toNat looks ∧
        Timer.KeepsInterval interval v.now.toNat looks (spoken.map (·.view.now.toNat)) ∧
        b.Tells p v.settings d spoken) ∧
    (∀ (network : Network) (ops : List (MeshOp Builtin)) (events : List Event)
      (mesh : Mesh Builtin), steps ops { network } = .ok (events, mesh) →
      ∃ recorded : Mesh (Recorder Builtin),
        steps (ops.map (·.mapFirmware .blank)) { network } = .ok (events, recorded) ∧
        recorded.mapFirmware Recorder.firmware = mesh ∧
        ∀ id n device p, recorded.fleet.find? id = some n → n.device = some device →
          device.firmware.firmware.periodic? = some p →
          n.InSessions ∧ (∀ call ∈ n.calls, call.Shows n.id device.settings) ∧
            ∃ b spoken, (∃ op ∈ ops, op.Registers b) ∧ device.firmware.Plays b spoken ∧
              b.Tells p device.settings device.firmware.firmware spoken) ∧
    ∀ (spec : NodeSpec) (b : Builtin),
      (MeshOp.fleet (.create .builtins spec)).Registers b → b.fired = 0 := by
  refine ⟨?_, ?_, fun spec b => Builtin.fired_of_registers⟩
  · intro b p v script interval looks kind ordinary ordered fits
    obtain ⟨spoken, d, played, times, tells⟩ := Builtin.exists_play_session kind ordinary fits
    refine ⟨spoken, d, played, times, ?_, tells⟩
    rw [times]
    exact Timer.keepsInterval (p.interval_pos v.settings) v.now.toNat ordered.of_cons
  · intro network ops events mesh h
    obtain ⟨recorded, hs, erased⟩ := exists_recorded_steps { network } h
    refine ⟨recorded, hs, erased, fun id n device p hn hd kind => ?_⟩
    have start : ({ network } : Mesh (Recorder Builtin)).Recorded := Fleet.Every.empty
    have sessions : n.InSessions := start.steps hs id n hn (by rw [hd]; rfl)
    obtain ⟨⟨b, spoken, origin, plays⟩, shows⟩ := (lives_of_steps hs id n hn).firmware device hd
    have calls : n.calls = device.firmware.calls := by rw [Node.calls, hd]; rfl
    have first := sessions.head
    rw [calls] at first ⊢
    exact ⟨sessions, shows, b, spoken, origin, plays,
      plays.tells kind first fun call hc => (shows call hc).settings⟩

theorem Mesh.periodic_firmware_keeps_its_interval_crashed_client :
    let shown (now : Time) : View :=
      { self := ⟨2⟩, now, settings := .ofList [("request_interval", "10")], peers := [⟨4⟩, ⟨9⟩] }
    let script : List (View × Callback) :=
      [(shown 5, .tick), (shown 13, .tick), (shown 14, .receive ⟨4⟩ []), (shown 14, .tick),
        (shown 40, .tick), (shown 49, .tick), (shown 50, .tick)]
    let network : Network := .seeded 1
    let settings : Settings := .ofList [("request_interval", "0"), ("server_node_id", "7")]
    let ops : List (MeshOp Builtin) :=
      [.fleet (.create .builtins { id := ⟨2⟩, firmware := "echo-client", settings }),
        .fleet (.startAll 0), .update 0, .update 1, .update 5, .execute (.crash ⟨2⟩) 6, .update 7,
        .execute (.restart ⟨2⟩) 8, .update 8, .update 9]
    (∃ spoken d, (Builtin.echoClient {}).play ((shown 3, .setup) :: script) = .ok (spoken, d) ∧
      spoken.map (·.view.now.toNat) = [13, 40, 50] ∧ d.fired = 3 ∧
      Timer.KeepsInterval 10 3 [5, 13, 14, 40, 49, 50] [13, 40, 50]) ∧
    ∃ (events : List Event) (recorded : Mesh (Recorder Builtin)) (n : Node (Recorder Builtin))
      (device : Device (Recorder Builtin)) (b : Builtin) (spoken : List Call),
      steps (ops.map (·.mapFirmware .blank)) { network } = .ok (events, recorded) ∧
      recorded.fleet.find? ⟨2⟩ = some n ∧ n.device = some device ∧ b.fired = 0 ∧
      device.firmware.Plays b spoken ∧
      b.Tells .requests device.settings device.firmware.firmware spoken ∧
      spoken.flatMap (·.sends) =
        [⟨⟨7⟩, EchoClient.request 0⟩, ⟨⟨7⟩, EchoClient.request 1⟩, ⟨⟨7⟩, EchoClient.request 2⟩] := by
  intro shown script network settings ops
  obtain ⟨session, life, unspent⟩ := periodic_firmware_keeps_its_interval
  constructor
  · have interval : Periodic.requests.interval (shown 3).settings = 10 := by decide +kernel
    have looks : Builtin.looks script = [5, 13, 14, 40, 49, 50] := by decide +kernel
    obtain ⟨spoken, d, played, times, keeps, tells⟩ :=
      session (.echoClient {}) .requests (shown 3) script rfl (by simp [script])
        (by rw [looks]; decide) (by rw [looks, interval]; decide)
    have fired : spoken.map (·.view.now.toNat) = [13, 40, 50] := by
      rw [times, interval, looks]
      decide
    rw [fired, interval, looks] at keeps
    have counted := tells.counted
    rw [← List.length_map (·.view.now.toNat), fired] at counted
    exact ⟨spoken, d, played, fired, counted, keeps⟩
  · have run : (fun _ => ()) <$> steps ops { network } = .ok () := by
      decide +kernel
    have calls : (fun r => (r.2.fleet.find? ⟨2⟩).bind fun n : Node (Recorder Builtin) =>
          n.device.map fun device => (device.firmware.firmware.periodic?,
            device.firmware.calls.flatMap (·.sends))) <$>
        steps (ops.map (·.mapFirmware Recorder.blank)) { network } = .ok (some (some .requests,
          [⟨⟨7⟩, EchoClient.request 0⟩, ⟨⟨7⟩, EchoClient.request 1⟩,
            ⟨⟨7⟩, EchoClient.request 2⟩])) := by
      decide +kernel
    obtain ⟨⟨events, mesh⟩, h, -⟩ := Checked.map_eq_ok.1 run
    obtain ⟨recorded, hs, -, lives⟩ := life network ops events mesh h
    rw [hs, Checked.map_ok, Except.ok.injEq, Option.bind_eq_some_iff] at calls
    obtain ⟨n, hn, calls⟩ := calls
    obtain ⟨device, hd, calls⟩ := Option.map_eq_some_iff.1 calls
    obtain ⟨kind, sends⟩ := Prod.mk.inj calls
    obtain ⟨-, -, b, spoken, ⟨op, hop, registers⟩, plays, tells⟩ :=
      lives ⟨2⟩ n device .requests hn hd kind
    refine ⟨events, recorded, n, device, b, spoken, hs, hn, hd, ?_, plays, tells, ?_⟩
    · rcases List.mem_cons.1 hop with rfl | hop
      · exact unspent _ b registers
      · simp only [List.mem_cons, List.not_mem_nil, or_false] at hop
        rcases hop with rfl | rfl | rfl | rfl | rfl | rfl | rfl | rfl | rfl
        all_goals cases registers
    · rw [← plays.sends, sends]

end MeshNet
