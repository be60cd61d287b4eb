import MeshNet.Proofs.Firmware.Protocol
import MeshNet.Proofs.Fleet.Register

namespace MeshNet

variable {φ : Type}

def Call.scene (c : Call) : Callback × List NodeId := (c.callback, c.view.peers)

namespace Node

structure Sees (n m : Node (Recorder φ)) (cs : List Callback) : Prop where
  equipped : m.device.isSome
  running : m.isRunning
  peers : m.peers = n.peers
  scenes : m.calls.map (·.scene) = n.calls.map (·.scene) ++ cs.map (·, n.peers)

namespace Sees

variable {n m k : Node (Recorder φ)} {cs ds : List Callback}

theorem refl (equipped : n.device.isSome) (running : n.isRunning) : n.Sees n [] :=
  ⟨equipped, running, rfl, (List.append_nil _).symm⟩

theorem trans (h : n.Sees m cs) (h' : m.Sees k ds) : n.Sees k (cs ++ ds) := by
  refine ⟨h'.equipped, h'.running, h'.peers.trans h.peers, ?_⟩
  rw [h'.scenes, h.scenes, h.peers, List.append_assoc, List.map_append]

theorem foldlM {α : Type} {act : Node (Recorder φ) → α → Checked (Node (Recorder φ))}
    {callback : α → Callback}
    (step : ∀ n m a, n.device.isSome → n.isRunning → act n a = .ok m → n.Sees m [callback a])
    {as : List α} (equipped : n.device.isSome) (running : n.isRunning)
    (h : as.foldlM act n = .ok m) : n.Sees m (as.map callback) := by
  induction as generalizing n with
  | nil =>
    cases h
    exact refl equipped running
  | cons a as ih =>
    rw [List.foldlM_cons] at h
    obtain ⟨k, first, rest⟩ := Checked.bind_eq_ok.1 h
    have seen := step n k a equipped running first
    exact seen.trans (ih seen.equipped seen.running rest)

end Sees

section Calls

variable [Firmware φ] {n m : Node (Recorder φ)} {now : Time}

theorem call_sees {c : Callback} (equipped : n.device.isSome) (running : n.isRunning)
    (h : n.call now c = .ok m) : n.Sees m [c] := by
  obtain ⟨device, hd⟩ := Option.isSome_iff_exists.1 equipped
  obtain ⟨session, hs⟩ := Option.isSome_iff_exists.1 running
  obtain ⟨sends, running', equipped', -, called⟩ := call_recorded h hd hs
  have before : n.peers = session.peers := by rw [peers, hs]; rfl
  refine ⟨equipped', running', ?_, ?_⟩
  · obtain ⟨device', sent, rfl⟩ := call_eq_ok h
    rw [peers, Option.map_map]
    rfl
  · rw [called, List.map_append, before]
    rfl

theorem take_sees {message : Message} (equipped : n.device.isSome) (running : n.isRunning)
    (h : n.take now message = .ok m) :
    n.Sees m [.receive message.link.source message.payload] := by
  obtain ⟨received, hd, rfl⟩ := Checked.map_eq_ok.1 h
  rw [deliver, if_pos running] at hd
  obtain ⟨k, hc, hd⟩ := Checked.map_eq_ok.1 hd
  cases hd
  -- The call is made by the node with the message already counted, which has the same peers.
  have counted := call_sees (n := { n with metrics := n.metrics.receive message.payload })
    equipped running hc
  exact ⟨counted.equipped, counted.running, counted.peers, counted.scenes⟩

theorem takeAll_sees {mail : List Message} (equipped : n.device.isSome) (running : n.isRunning)
    (h : n.takeAll now mail = .ok m) :
    n.Sees m (mail.map fun message => .receive message.link.source message.payload) := by
  have hears (k l : Node (Recorder φ)) (message : Message) (equipped : k.device.isSome)
      (running : k.isRunning) (ht : k.take now message = .ok l) :
      k.Sees l [.receive message.link.source message.payload] := take_sees equipped running ht
  exact Sees.foldlM hears equipped running h

theorem refreshPeers_sees {peers : List NodeId} (equipped : n.device.isSome)
    (running : n.isRunning) (h : n.refreshPeers now peers = .ok m) :
    Sees { n with session := n.session.map ({ · with peers }) } m (news n.peers peers) := by
  obtain ⟨session, hs⟩ := Option.isSome_iff_exists.1 running
  have before : n.peers = session.peers := by rw [Node.peers, hs]; rfl
  simp only [refreshPeers, hs] at h
  rw [hs, news, before]
  split at h
  · next unchanged =>
    cases h
    rw [if_pos unchanged, unchanged]
    exact ⟨equipped, running, before, (List.append_nil _).symm⟩
  · next changed =>
    obtain ⟨k, announced, last⟩ := Checked.bind_eq_ok.1 h
    rw [if_neg changed]
    have hears (k l : Node (Recorder φ)) (peer : NodeId) (equipped : k.device.isSome)
        (running : k.isRunning) (hc : k.call now (.newConnection peer) = .ok l) :
        k.Sees l [.newConnection peer] := call_sees equipped running hc
    have first := Sees.foldlM hears (n := { n with session := some { session with peers } })
      equipped rfl announced
    exact first.trans (call_sees first.equipped first.running last)

theorem attend_sees {mail : List Message} {peers : List NodeId} (equipped : n.device.isSome)
    (running : n.isRunning) (h : n.attend now mail peers = .ok m) :
    m.calls.map (·.scene) = n.calls.map (·.scene) ++
      mail.map (fun message => (.receive message.link.source message.payload, n.peers)) ++
      (news n.peers m.peers).map (·, m.peers) ++ [(.tick, m.peers)] := by
  obtain ⟨a, ht, h⟩ := Checked.bind_eq_ok.1 h
  obtain ⟨b, hr, h⟩ := Checked.bind_eq_ok.1 h
  obtain ⟨c, hc, h⟩ := Checked.bind_eq_ok.1 h
  cases h
  have received := takeAll_sees equipped running ht
  have refreshed := refreshPeers_sees received.equipped received.running hr
  have ticked := call_sees refreshed.equipped refreshed.running hc
  obtain ⟨session, hs⟩ := Option.isSome_iff_exists.1 received.running
  have given : b.peers = peers := by rw [refreshed.peers, Node.peers, hs]; rfl
  have flushed : c.flush.peers = peers := by
    rw [← given, ← ticked.peers, Node.peers, flush, Option.map_map]
    rfl
  have shown : Node.peers { a with session := a.session.map ({ · with peers }) } = peers := by
    rw [← refreshed.peers, given]
  have calls : c.flush.calls = c.calls := rfl
  rw [calls, ticked.scenes, refreshed.scenes, shown, given, flushed]
  change (a.calls.map (·.scene) ++ _) ++ _ = _
  rw [received.scenes, received.peers, List.map_map]
  rfl

end Calls

end Node

theorem Fleet.runningIds_ascending (f : Fleet φ) :
    f.runningIds.Pairwise fun a b => a.val < b.val := by
  have part : f.runningIds.Sublist f.ids := by
    rw [runningIds, ids, ← Std.ExtTreeMap.map_fst_toList_eq_keys]
    exact List.filter_sublist.map _
  exact f.ids_ascending.sublist part

theorem Node.map_news (before peers : List NodeId) :
    (news before peers).map (·, peers) = if peers = before then []
      else (peers.filter (· ∉ before)).map (fun p => (.newConnection p, peers)) ++
        [(.changedConnections, peers)] := by
  have added : newPeers before peers = peers.filter (· ∉ before) := by simp [newPeers]
  rw [news, added]
  split
  · rfl
  · rw [List.map_append, List.map_map]
    rfl

namespace Mesh

variable [Firmware φ] {mesh mesh' : Mesh φ} {now : Time} {report : UpdateReport}

theorem peersOf_update_ascending (h : mesh.update now = .ok (report, mesh'))
    (keyed : mesh.fleet.Keyed) (id : NodeId) :
    (mesh'.fleet.peersOf id).Pairwise fun a b => a.val < b.val := by
  obtain ⟨reached, k, hw, -, rfl⟩ := update_eq_ok h
  obtain ⟨f, g, hd, hr, ht⟩ := work_eq_ok hw
  rw [Fleet.peersOf_flush, Fleet.peersOf_tickAll ht,
    Fleet.peersOf_refreshAll hr ((keyed.observe now).deliverAll hd)]
  split
  · exact f.runningIds_ascending.sublist List.filter_sublist
  · exact .nil

theorem runs_update (h : mesh.update now = .ok (report, mesh')) (keyed : mesh.fleet.Keyed) :
    mesh'.fleet.runs = mesh.fleet.runs := by
  obtain ⟨reached, k, hw, -, rfl⟩ := update_eq_ok h
  have flushed := Fleet.Nodewise.map k .flush
  rw [← (work_keeps hw keyed).2]
  exact flushed.runs_eq fun id n m hm => by
    rw [hm, Node.isRunning, Node.flush, Option.isSome_map, Node.isRunning]

end Mesh

theorem Fleet.updates_refresh_and_announce_peers [Firmware φ] {ops : List (RosterOp φ)}
    {r : Register} {f : Fleet φ} (h : operateAll ops ∅ = .ok (r, f)) :
    (∀ id n, f.find? id = some n → n.isRunning = false → n.peers = [] ∧ n.outbox = []) ∧
    (∀ id n m now, f.find? id = some n → n.stop now = .ok m ∨ n.crash now = .ok m →
      m.isRunning = false ∧ m.peers = [] ∧ m.outbox = []) ∧
    ∀ network now report (mesh : Mesh φ),
      ({ fleet := f, network } : Mesh φ).update now = .ok (report, mesh) →
      mesh.network.cuts = network.cuts ∧ mesh.fleet.runs = f.runs ∧
      (∀ id m, mesh.fleet.find? id = some m → m.isRunning = true →
        m.peers.Pairwise (fun a b => a.val < b.val) ∧
        ∀ p, p ∈ m.peers ↔
          p ≠ id ∧ mesh.fleet.runs p = true ∧ network.cuts.active ⟨id, p⟩ = true) ∧
      ∃ recorded : Mesh (Recorder φ),
        (({ fleet := f, network } : Mesh φ).mapFirmware .blank).update now =
          .ok (report, recorded) ∧
        recorded.mapFirmware Recorder.firmware = mesh ∧
        ∀ id n, f.find? id = some n → n.isRunning = true → n.device.isSome = true →
          ∃ m k, mesh.fleet.find? id = some m ∧ recorded.fleet.find? id = some k ∧
            k.calls.map (fun c => (c.callback, c.view.peers)) =
              ((network.inFlight.ready now).filter (·.item.link.target = id)).map
                (fun w => (.receive w.item.link.source w.item.payload, n.peers)) ++
              (if m.peers = n.peers then []
                else (m.peers.filter (· ∉ n.peers)).map (fun p => (.newConnection p, m.peers)) ++
                  [(.changedConnections, m.peers)]) ++
              [(.tick, m.peers)] := by
  have keyed : f.Keyed := (Records.empty.operateAll h).keyed
  refine ⟨fun id n _ stopped => ?_, fun id n m now _ ends => ?_, fun network now report mesh hu => ?_⟩
  · have ended : n.session = none := by simpa [Node.isRunning] using stopped
    exact ⟨Node.peers_of_stopped ended, Node.outbox_of_stopped ended⟩
  · rcases ends with stopped | crashed
    · exact Node.stop_clears stopped
    · exact Node.crash_clears crashed
  · obtain ⟨-, cuts, members⟩ := Mesh.update_peers hu keyed
    have runs : mesh.fleet.runs = f.runs := Mesh.runs_update hu keyed
    obtain ⟨recorded, hr, rfl⟩ := Mesh.exists_recorded_update hu
    refine ⟨cuts, runs, fun id m hm running => ?_, recorded, hr, rfl,
      fun id n hn running equipped => ?_⟩
    · rw [← peersOf_of_find? hm]
      refine ⟨Mesh.peersOf_update_ascending hu keyed id, fun p => ?_⟩
      have own : f.runs id := by
        rw [← runs, Fleet.runs, hm]
        exact running
      rw [members, runs]
      tauto
    · have hn' : (f.mapFirmware Recorder.blank).find? id = some (n.mapFirmware .blank) := by
        rw [find?_mapFirmware, hn, Option.map_some]
      obtain ⟨k, hk, peers, attended⟩ := (Mesh.update_nodewise hr).present id _ hn'
      have hm : (recorded.mapFirmware Recorder.firmware).fleet.find? id =
          some (k.mapFirmware Recorder.firmware) := by
        rw [Mesh.mapFirmware, find?_mapFirmware, hk, Option.map_some]
      refine ⟨_, k, hm, hk, ?_⟩
      have seen := Node.attend_sees (by simpa [Node.mapFirmware] using equipped) running attended
      rw [Node.calls_blank, List.map_nil, List.nil_append, Node.map_news, Network.drain,
        List.map_map, List.filter_map, List.map_map] at seen
      exact seen

theorem Fleet.updates_refresh_and_announce_peers_one_lost_one_new :
    let network : Network := .seeded 1
    let ops : List (RosterOp Builtin) :=
      [.fleet (.add ⟨1⟩), .fleet (.create .builtins { id := ⟨2⟩, firmware := "echo-server" }),
        .fleet (.add ⟨4⟩), .fleet (.startAll 0), .fleet (.add ⟨3⟩), .update 1 network,
        .execute (.crash ⟨1⟩) 2 network, .fleet (.call ⟨3⟩ (.start 2))]
    let oneWay : Network := network.cut ⟨⟨4⟩, ⟨2⟩⟩
    ∃ r f report recorded k, operateAll ops ∅ = .ok (r, f) ∧
      (({ fleet := f, network := oneWay } : Mesh Builtin).mapFirmware .blank).update 3 =
        .ok (report, recorded) ∧
      recorded.fleet.find? ⟨2⟩ = some k ∧
      k.calls.map (fun c => (c.callback, c.view.peers)) =
        [(.newConnection ⟨3⟩, [⟨3⟩, ⟨4⟩]), (.changedConnections, [⟨3⟩, ⟨4⟩]),
          (.tick, [⟨3⟩, ⟨4⟩])] := by
  intro network ops oneWay
  have run : (operateAll ops ∅ >>= fun r =>
      (fun u => ((r.2.find? ⟨2⟩).map fun n => (n.isRunning, n.device.isSome, n.peers),
        (u.2.fleet.find? ⟨2⟩).map (·.peers))) <$>
          ({ fleet := r.2, network := oneWay } : Mesh Builtin).update 3) =
      .ok (some (true, true, [⟨1⟩, ⟨4⟩]), some [⟨3⟩, ⟨4⟩]) := by
    decide +kernel
  obtain ⟨⟨r, f⟩, h, run⟩ := Checked.bind_eq_ok.1 run
  obtain ⟨⟨report, mesh⟩, hu, run⟩ := Checked.map_eq_ok.1 run
  obtain ⟨before, after⟩ := Prod.mk.inj run
  obtain ⟨n, hn, old⟩ := Option.map_eq_some_iff.1 before
  obtain ⟨m, hm, new⟩ := Option.map_eq_some_iff.1 after
  obtain ⟨running, rest⟩ := Prod.mk.inj old
  obtain ⟨equipped, peers⟩ := Prod.mk.inj rest
  obtain ⟨-, -, updated⟩ := updates_refresh_and_announce_peers h
  obtain ⟨-, -, -, recorded, hr, -, heard⟩ := updated oneWay 3 report mesh hu
  obtain ⟨m', k, hm', hk, calls⟩ := heard ⟨2⟩ n hn running equipped
  obtain rfl := Option.some.inj (hm.symm.trans hm')
  have quiet : oneWay.inFlight.ready 3 = [] := by decide +kernel
  refine ⟨r, f, report, recorded, k, h, hr, hk, ?_⟩
  rw [calls, peers, new, quiet]
  rfl

end MeshNet
