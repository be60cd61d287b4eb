import MeshNet.Proofs.Firmware.Session

namespace MeshNet

variable {φ : Type}

def MeshOp.callbacks (network : Network) (id : NodeId) (n m : Node φ) : MeshOp φ → List Callback
  | update now =>
    if n.isRunning then
      ((network.inFlight.ready now).filter (·.item.link.target = id)).map
        (fun w => .receive w.item.link.source w.item.payload) ++ (Node.news n.peers m.peers ++ [.tick])
    else []
  | execute (.restart i) _ | fleet (.call i (.restart _)) => if id = i then [.setup] else []
  | fleet (.adjustTime i _ offset) => if id = i ∧ n.isRunning then [.timeAdjusted offset] else []
  | _ => n.opening m

theorem Node.setup_not_mem_attendance (before peers : List NodeId) (ms : List Message) :
    Callback.setup ∉ (ms.map fun m => .receive m.link.source m.payload) ++
      (news before peers ++ [.tick]) := by
  simp only [news, List.mem_append, List.mem_map, List.mem_singleton, reduceCtorEq, and_false,
    exists_false, false_or, or_false]
  split
  · exact List.not_mem_nil
  · simp

theorem Fleet.contains_of_find? {f : Fleet φ} {id : NodeId} {n : Node φ} (h : f.find? id = some n) :
    f.contains id := by
  rw [contains, Std.ExtTreeMap.contains_eq_isSome_getElem?, ← find?, h]
  rfl

theorem Recorder.calls_device (catalogue : Catalogue φ) (spec : NodeSpec) :
    Node.calls { id := spec.id, device := spec.device (catalogue.map .blank) } = [] := by
  have entry (name : String) : (catalogue.map blank).entries[name]? =
      catalogue.entries[name]?.map blank := Std.ExtTreeMap.getElem?_map
  rw [Node.calls, NodeSpec.device]
  cases spec.firmware with
  | none => rfl
  | some name =>
    rw [Option.bind_some, entry]
    cases catalogue.entries[name]? <;> rfl

theorem Mesh.exists_adds [Firmware φ] {mesh mesh' : Mesh φ} {op : MeshOp φ} {events : List Event}
    {id : NodeId} {m : Node φ} (h : mesh.step op = .ok (events, mesh'))
    (hn : mesh.fleet.find? id = none) (hm : mesh'.fleet.find? id = some m) :
    ∃ added, op = .fleet added ∧ added.Adds m := by
  cases op with
  | execute e now =>
    obtain ⟨⟨verdict, d⟩, hp, h⟩ := Checked.bind_eq_ok.1 h
    cases h
    rcases Event.eq_or_effect_of_perform hp with rfl | he
    · cases hn.symm.trans hm
    · cases ((Event.effect_nodewise he).missing id hn).symm.trans hm
  | update now =>
    obtain ⟨⟨report, d⟩, hu, h⟩ := Checked.bind_eq_ok.1 h
    cases h
    cases ((update_nodewise hu).missing id hn).symm.trans hm
  | network op =>
    cases h
    cases hn.symm.trans hm
  | fleet op =>
    obtain ⟨fleet, hf, h⟩ := Checked.bind_eq_ok.1 h
    cases h
    exact ⟨op, rfl, FleetOp.adds_of_step hf hn hm⟩

section Recorded

variable [Firmware φ] {mesh mesh' : Mesh (Recorder φ)} {id : NodeId} {n m : Node (Recorder φ)}

theorem Event.Alters.called {e : Event} {now : Time} (h : e.Alters now id n m)
    (network : Network) : n.Called m ((MeshOp.execute e now).callbacks network id n m) := by
  have kept (h : m = n) : n.Called m (n.opening m) := by
    subst h
    exact .unchanged rfl fun hr => hr
  cases e with
  | start i =>
    rw [Alters] at h
    split at h
    · exact Node.wake_called h
    · exact kept h
  | stop i graceful =>
    rw [Alters] at h
    split at h
    · exact Node.stop_called h
    · exact kept h
  | crash i =>
    rw [Alters] at h
    split at h
    · exact Node.crash_called h
    · exact kept h
  | restart i =>
    rw [Alters] at h
    rw [MeshOp.callbacks]
    split at h
    · next own =>
      rw [if_pos own]
      exact Node.reboot_called h
    · next other =>
      subst h
      rw [if_neg other]
      exact .of_same rfl fun hr => hr
  | partition groups | heal =>
    obtain ⟨tag, rfl⟩ := h
    exact .unchanged rfl fun hr => hr
  | drop l | restore l | degrade l latency loss => exact kept h

theorem FleetOp.Alters.called {f : Fleet (Recorder φ)} {op : FleetOp (Recorder φ)}
    (h : op.Alters f id n m) (network : Network) :
    n.Called m ((MeshOp.fleet op).callbacks network id n m) := by
  have kept (h : m = n) : n.Called m (n.opening m) := by
    subst h
    exact .unchanged rfl fun hr => hr
  cases op with
  | add i | create catalogue spec | remove i now => exact kept h
  | startAll now => exact Node.wake_called h
  | stopAll now | shutdown => exact Node.stop_called h
  | call i op =>
    rw [Alters] at h
    split at h
    · next own =>
      have called := Node.step_called h
      cases op with
      | start now | stop now | crash now => exact called
      | restart now => rwa [MeshOp.callbacks, if_pos own]
    · next other =>
      cases op with
      | start now | stop now | crash now => exact kept h
      | restart now =>
        subst h
        rw [MeshOp.callbacks, if_neg other]
        exact .of_same rfl fun hr => hr
  | adjustTime i now offset =>
    rw [Alters] at h
    rw [MeshOp.callbacks]
    split at h
    · next own =>
      have called := Node.Called.of_hears (Node.call_hears h) (by simp)
      simpa only [own, true_and] using called
    · next other =>
      subst h
      rw [if_neg fun hr => other hr.1]
      exact .of_same rfl fun hr => hr

theorem Mesh.update_called {now : Time} {report : UpdateReport}
    (h : mesh.update now = .ok (report, mesh')) (hn : mesh.fleet.find? id = some n)
    (hm : mesh'.fleet.find? id = some m) :
    n.Called m ((MeshOp.update now).callbacks mesh.network id n m) := by
  obtain ⟨peers, ha⟩ := (update_nodewise h).rel hn hm
  have called := Node.Called.of_hears (Node.attend_hears ha)
    (Node.setup_not_mem_attendance n.peers m.peers _)
  rw [Network.drain, List.map_map, List.filter_map, List.map_map] at called
  exact called

theorem Mesh.step_called {op : MeshOp (Recorder φ)} {events : List Event}
    (h : mesh.step op = .ok (events, mesh')) (hn : mesh.fleet.find? id = some n)
    (hm : mesh'.fleet.find? id = some m) :
    n.Called m (op.callbacks mesh.network id n m) := by
  cases op with
  | execute e now =>
    obtain ⟨⟨verdict, d⟩, hp, h⟩ := Checked.bind_eq_ok.1 h
    cases h
    rw [Event.perform_eq] at hp
    cases hr : e.refusal? mesh.fleet with
    | none =>
      rw [hr] at hp
      obtain ⟨d, he, hp⟩ := Checked.map_eq_ok.1 hp
      cases hp
      exact ((Event.effect_nodewise he).rel hn hm).called mesh.network
    | some error =>
      -- A refused event is not a restart of `n`, since it does not name a managed node.
      rw [hr] at hp
      cases hp
      obtain rfl := Option.some.inj (hm.symm.trans hn)
      cases e with
      | restart i =>
        have other : id ≠ i := by
          rintro rfl
          rw [Event.refusal?, if_pos (Fleet.contains_of_find? hn)] at hr
          cases hr
        rw [MeshOp.callbacks, if_neg other]
        exact .of_same rfl fun hr => hr
      | _ => exact .unchanged rfl fun hr => hr
  | update now =>
    obtain ⟨⟨report, d⟩, hu, h⟩ := Checked.bind_eq_ok.1 h
    cases h
    exact update_called hu hn hm
  | network op =>
    cases h
    obtain rfl := Option.some.inj (hm.symm.trans hn)
    exact .unchanged rfl fun hr => hr
  | fleet op =>
    obtain ⟨fleet, hf, h⟩ := Checked.bind_eq_ok.1 h
    cases h
    exact (FleetOp.alters_of_step hf hn hm).called mesh.network

theorem Mesh.step_born {op : MeshOp φ} {events : List Event}
    (h : mesh.step (op.mapFirmware .blank) = .ok (events, mesh'))
    (hn : mesh.fleet.find? id = none) (hm : mesh'.fleet.find? id = some m) :
    m.session = none ∧ m.calls = [] := by
  obtain ⟨added, hop, adds⟩ := exists_adds h hn hm
  cases op with
  | execute e now | update now | network op => cases hop
  | fleet op =>
    cases hop
    cases op with
    | add i =>
      obtain rfl := adds
      exact ⟨rfl, rfl⟩
    | create catalogue spec =>
      obtain rfl := adds
      exact ⟨rfl, Recorder.calls_device catalogue spec⟩
    | remove i now | startAll now | stopAll now | shutdown | call i op | adjustTime i now offset =>
      cases adds

def Mesh.Recorded (mesh : Mesh (Recorder φ)) : Prop :=
  mesh.fleet.Every fun _ n => n.device.isSome → n.InSessions

theorem Mesh.Recorded.step (recorded : mesh.Recorded) {op : MeshOp φ} {events : List Event}
    (h : mesh.step (op.mapFirmware .blank) = .ok (events, mesh')) : mesh'.Recorded := by
  intro id m hm equipped
  cases hn : mesh.fleet.find? id with
  | none =>
    obtain ⟨stopped, calls⟩ := step_born h hn hm
    exact ⟨[], [], calls, nofun, by rw [if_neg (by simp [Node.isRunning, stopped])]⟩
  | some n =>
    have called := step_called h hn hm
    have before : n.device.isSome := called.equipped ▸ equipped
    exact called.inSessions before (recorded id n hn before)

theorem Mesh.Recorded.steps (recorded : mesh.Recorded) {ops : List (MeshOp φ)}
    {events : List Event} (h : steps (ops.map (·.mapFirmware .blank)) mesh = .ok (events, mesh')) :
    mesh'.Recorded := by
  refine steps_keep (P := Recorded) (fun op hop mesh next first before ho => ?_) recorded h
  obtain ⟨told, -, rfl⟩ := List.mem_map.1 hop
  exact before.step ho

end Recorded

theorem MeshOp.mapFirmware_blank (op : MeshOp φ) :
    (op.mapFirmware Recorder.blank).mapFirmware Recorder.firmware = op := by
  cases op with
  | execute e now | update now | network op => rfl
  | fleet op =>
    cases op with
    | create catalogue spec =>
      have entries : (catalogue.map Recorder.blank).map Recorder.firmware = catalogue := by
        refine congrArg Catalogue.mk (Std.ExtTreeMap.ext_getElem? fun name => ?_)
        rw [Std.ExtTreeMap.getElem?_map, Catalogue.map, Std.ExtTreeMap.getElem?_map, Option.map_map]
        exact Option.map_id'
      exact congrArg (fun c => fleet (.create c spec)) entries
    | _ => rfl

theorem Node.calls_blank (n : Node φ) : (n.mapFirmware Recorder.blank).calls = [] := by
  rw [calls, mapFirmware, Option.map_map]
  cases n.device <;> rfl

theorem Mesh.mapFirmware_blank (mesh : Mesh φ) :
    (mesh.mapFirmware Recorder.blank).mapFirmware Recorder.firmware = mesh := by
  have node (n : Node φ) :
      (n.mapFirmware Recorder.blank).mapFirmware Recorder.firmware = n := by
    obtain ⟨id, device, session, tag, metrics⟩ := n
    cases device <;> rfl
  refine congrArg₂ Mesh.mk (Fleet.ext (fun id => ?_) rfl rfl) rfl
  rw [mapFirmware, Fleet.find?_mapFirmware, Fleet.find?_mapFirmware, Option.map_map]
  simp only [Function.comp_def, node, Option.map_id']

theorem Fleet.source_runs {f : Fleet φ} (keyed : f.Keyed) {m : Message} (h : m ∈ f.unsent) :
    f.runs m.link.source := by
  obtain ⟨id, n, found, o, ho, rfl⟩ := mem_unsent h
  have own : n.id = id := keyed id n found
  have running : n.isRunning := by
    cases hs : n.session with
    | none =>
      rw [Node.outbox_of_stopped hs] at ho
      cases ho
    | some session => rw [Node.isRunning, hs]; rfl
  change f.runs n.id
  rw [Fleet.runs, own, found]
  exact running

namespace Mesh

variable [Firmware φ] {events : List Event} {mesh' : Mesh φ}

theorem exists_recorded_step (recorded : Mesh (Recorder φ)) {op : MeshOp φ}
    (h : (recorded.mapFirmware Recorder.firmware).step op = .ok (events, mesh')) :
    ∃ recorded', recorded.step (op.mapFirmware .blank) = .ok (events, recorded') ∧
      recorded'.mapFirmware Recorder.firmware = mesh' := by
  have natural := recorded.step_mapFirmware Recorder.morphism (op.mapFirmware .blank)
  rw [Recorder.morphism, op.mapFirmware_blank, h] at natural
  obtain ⟨⟨_, recorded'⟩, hs, he⟩ := Checked.map_eq_ok.1 natural.symm
  cases he
  exact ⟨recorded', hs, rfl⟩

theorem exists_recorded_update {mesh : Mesh φ} {now : Time} {report : UpdateReport}
    (h : mesh.update now = .ok (report, mesh')) :
    ∃ recorded, (mesh.mapFirmware Recorder.blank).update now = .ok (report, recorded) ∧
      recorded.mapFirmware Recorder.firmware = mesh' := by
  have natural := (mesh.mapFirmware Recorder.blank).update_mapFirmware Recorder.morphism now
  rw [Recorder.morphism, mesh.mapFirmware_blank, h] at natural
  obtain ⟨⟨_, recorded⟩, hu, he⟩ := Checked.map_eq_ok.1 natural.symm
  cases he
  exact ⟨recorded, hu, rfl⟩

theorem exists_recorded_steps (recorded : Mesh (Recorder φ)) {ops : List (MeshOp φ)}
    (h : steps ops (recorded.mapFirmware Recorder.firmware) = .ok (events, mesh')) :
    ∃ recorded', steps (ops.map (·.mapFirmware .blank)) recorded = .ok (events, recorded') ∧
      recorded'.mapFirmware Recorder.firmware = mesh' := by
  have natural := recorded.steps_mapFirmware Recorder.morphism (ops.map (·.mapFirmware .blank))
  have erased : (ops.map (·.mapFirmware Recorder.blank)).map (·.mapFirmware Recorder.firmware) =
      ops := by
    rw [List.map_map]
    exact List.map_id'' (fun op => op.mapFirmware_blank) ops
  rw [Recorder.morphism, erased, h] at natural
  obtain ⟨⟨_, recorded'⟩, hs, he⟩ := Checked.map_eq_ok.1 natural.symm
  cases he
  exact ⟨recorded', hs, rfl⟩

theorem work_keeps {f g : Fleet φ} {arrived : List Message} {cuts : Cuts} {now : Time}
    {reached : List Bool} (h : work f arrived cuts now = .ok (reached, g)) (keyed : f.Keyed) :
    g.Keyed ∧ g.runs = f.runs := by
  obtain ⟨a, b, hd, hr, ht⟩ := work_eq_ok h
  refine ⟨(((keyed.observe now).deliverAll hd).refreshAll hr).tickAll ht, ?_⟩
  rw [(Fleet.Nodewise.each ht).runs_eq, (Fleet.Nodewise.refreshAll hr).runs_eq,
    Fleet.runs_deliverAll hd]
  · rfl
  · rintro id n m ⟨peers, hm⟩
    obtain ⟨device, sent, rfl⟩ := Node.refreshPeers_eq_ok hm
    rw [Node.isRunning, Option.isSome_map, Node.isRunning]
  · intro id n m hm
    obtain ⟨device, sent, rfl⟩ := Node.call_eq_ok hm
    rw [Node.isRunning, Option.isSome_map, Node.isRunning]

theorem sources_run {mesh : Mesh φ} (keyed : mesh.fleet.Keyed) {now : Time} {x : Exchange}
    (h : mesh.exchange now = .ok x) : ∀ m ∈ x.flushed, mesh.fleet.runs m.link.source := by
  obtain ⟨⟨reached, k⟩, hw, -⟩ := Checked.bind_eq_ok.1 h
  rw [exchange_of_work hw] at h
  cases h
  obtain ⟨keyed', runs⟩ := work_keeps hw keyed
  intro m hm
  rw [Exchange.flushed, List.map_fst_zip (Nat.le_of_eq (Network.length_enqueueAll ..).symm)] at hm
  rw [← runs]
  exact Fleet.source_runs keyed' hm

end Mesh

theorem Mesh.firmware_is_called_in_sessions [Firmware φ] {network : Network}
    {ops : List (MeshOp φ)} {events : List Event} {mesh : Mesh φ}
    (h : steps ops { network } = .ok (events, mesh)) :
    ∃ recorded : Mesh (Recorder φ),
      steps (ops.map (·.mapFirmware .blank)) { network } = .ok (events, recorded) ∧
      recorded.mapFirmware Recorder.firmware = mesh ∧
      (∀ id n, recorded.fleet.find? id = some n → n.device.isSome → n.InSessions) ∧
      (∀ op more mesh', mesh.step op = .ok (more, mesh') →
        ∃ recorded', recorded.step (op.mapFirmware .blank) = .ok (more, recorded') ∧
          recorded'.mapFirmware Recorder.firmware = mesh' ∧
          (∀ id m, recorded.fleet.find? id = none → recorded'.fleet.find? id = some m →
            m.session = none ∧ m.calls = []) ∧
          ∀ id n m, recorded.fleet.find? id = some n → recorded'.fleet.find? id = some m →
            n.Called m ((op.mapFirmware .blank).callbacks mesh.network id n m)) ∧
      (∀ now, (mesh.network.inFlight.ready now).Pairwise fun v w =>
        v.time < w.time ∨ v.time = w.time ∧ v.number < w.number) ∧
      ∀ now x, mesh.exchange now = .ok x → ∀ m ∈ x.flushed, mesh.fleet.runs m.link.source := by
  have start : ({ network } : Mesh (Recorder φ)).Recorded := Fleet.Every.empty
  have fresh : ({ network } : Mesh φ).fleet.Keyed := Fleet.Every.empty
  have keyed : mesh.fleet.Keyed := keyed_steps fresh h
  obtain ⟨recorded, hs, rfl⟩ := exists_recorded_steps { network } h
  refine ⟨recorded, hs, rfl, start.steps hs, fun op more mesh' ho => ?_, fun now => ?_,
    fun now x hx => sources_run keyed hx⟩
  · obtain ⟨recorded', hs', he⟩ := exists_recorded_step recorded ho
    exact ⟨recorded', hs', he, fun id m => step_born hs', fun id n m => step_called hs'⟩
  · refine List.Pairwise.imp Waiting.before_iff.1 ?_
    exact recorded.network.inFlight.sorted.sublist (List.takeWhile_sublist _)

theorem Mesh.firmware_is_called_in_sessions_crashed_server :
    let network : Network := .seeded 1
    let ops : List (MeshOp Builtin) :=
      [.network (.configure (.defaultLatency (.fixed 3))), .fleet (.add ⟨1⟩),
        .fleet (.create .builtins { id := ⟨2⟩, firmware := "echo-server" }), .fleet (.startAll 0),
        .network (.enqueue ⟨⟨⟨1⟩, ⟨2⟩⟩, [7]⟩ 0), .update 3, .fleet (.adjustTime ⟨2⟩ 4 (-5)),
        .execute (.crash ⟨2⟩) 4, .update 5, .execute (.restart ⟨2⟩) 6, .execute (.start ⟨2⟩) 7]
    let heard : List Callback :=
      [.setup, .receive ⟨1⟩ [7], .newConnection ⟨1⟩, .changedConnections, .tick, .timeAdjusted (-5),
        .setup]
    ∃ (events : List Event) (recorded : Mesh (Recorder Builtin)) (n : Node (Recorder Builtin)),
      steps (ops.map (·.mapFirmware .blank)) { network } = .ok (events, recorded) ∧
      recorded.fleet.find? ⟨2⟩ = some n ∧ n.calls.map (·.callback) = heard ∧ n.InSessions := by
  intro network ops heard
  have run : (fun _ => ()) <$> steps ops { network } = .ok () := by
    decide +kernel
  have calls : (fun r => (r.2.fleet.find? ⟨2⟩).map fun n =>
        (n.device.isSome, n.calls.map (·.callback))) <$>
      steps (ops.map (·.mapFirmware .blank)) { network } = .ok (some (true, heard)) := by
    decide +kernel
  obtain ⟨⟨events, mesh⟩, h, -⟩ := Checked.map_eq_ok.1 run
  obtain ⟨recorded, hs, -, sessions, -⟩ := firmware_is_called_in_sessions h
  rw [hs, Checked.map_ok, Except.ok.injEq, Option.map_eq_some_iff] at calls
  obtain ⟨n, hn, he⟩ := calls
  obtain ⟨equipped, callbacks⟩ := Prod.mk.inj he
  exact ⟨events, recorded, n, hs, hn, callbacks, sessions ⟨2⟩ n hn equipped⟩

end MeshNet
