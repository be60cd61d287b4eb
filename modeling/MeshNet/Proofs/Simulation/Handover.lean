import MeshNet.Proofs.Simulation.Arrival

namespace MeshNet

def Callback.mail? : Callback → Option (NodeId × Payload)
  | receive sender payload => some (sender, payload)
  | setup | tick | newConnection _ | changedConnections | timeAdjusted _ => none

theorem Node.mail?_news (before peers : List NodeId) :
    (news before peers ++ [Callback.tick]).filterMap Callback.mail? = [] := by
  rw [List.filterMap_eq_nil_iff]
  intro c hc
  rw [List.mem_append, news] at hc
  rcases hc with hc | hc
  · split at hc
    · cases hc
    · rcases List.mem_append.1 hc with hc | hc
      · obtain ⟨peer, -, rfl⟩ := List.mem_map.1 hc
        rfl
      · obtain rfl := List.mem_singleton.1 hc
        rfl
  · obtain rfl := List.mem_singleton.1 hc
    rfl

variable {φ : Type}

namespace Mesh

variable [Firmware φ]

/-- An update at `now` hands each message that is due to its target, if that runs, and to nobody
else. It counts the messages either way. -/
structure HandsOver (mesh mesh' : Mesh φ) (now : Time) (report : UpdateReport) : Prop where
  delivered : report.delivered =
    ((mesh.network.inFlight.ready now).filter fun w => mesh.fleet.runs w.item.link.target).length
  undeliverable : report.undeliverable =
    ((mesh.network.inFlight.ready now).filter fun w => !mesh.fleet.runs w.item.link.target).length
  received : ∃ recorded,
    (mesh.mapFirmware Recorder.blank).update now = .ok (report, recorded) ∧
      recorded.mapFirmware Recorder.firmware = mesh' ∧
      ∀ id n m, mesh.fleet.find? id = some n → recorded.fleet.find? id = some m →
        n.device.isSome → m.calls.filterMap (·.callback.mail?) =
          if n.isRunning then
            ((mesh.network.inFlight.ready now).filter (·.item.link.target = id)).map
              fun w => (w.item.link.source, w.item.payload)
          else []

theorem handsOver {mesh mesh' : Mesh φ} {now : Time} {report : UpdateReport}
    (h : mesh.update now = .ok (report, mesh')) : mesh.HandsOver mesh' now report := by
  obtain ⟨x, hx, rfl, -⟩ := update_spec h
  obtain ⟨⟨reached, k⟩, hw, -⟩ := Checked.bind_eq_ok.1 hx
  have counted (runs : Message → Bool) :
      (((mesh.network.drain now).1.map (·.2)).filter runs).length =
        ((mesh.network.inFlight.ready now).filter fun w => runs w.item).length := by
    rw [Network.drain, List.map_map, List.filter_map, List.length_map]
    rfl
  obtain ⟨recorded, hu, rfl⟩ := exists_recorded_update h
  rw [exchange_of_work hw] at hx
  cases hx
  refine ⟨counted _, counted _, recorded, hu, rfl, fun id n m hn hm equipped => ?_⟩
  have blank : (mesh.mapFirmware Recorder.blank).fleet.find? id =
      some (n.mapFirmware Recorder.blank) := by
    rw [mapFirmware, Fleet.find?_mapFirmware, hn, Option.map_some]
  obtain ⟨chunk, hc, heard, -⟩ := (update_called hu blank hm).calls (by
    rwa [Node.mapFirmware, Option.isSome_map])
  have mail : m.calls.filterMap (·.callback.mail?) =
      (m.calls.map (·.callback)).filterMap Callback.mail? := by
    rw [List.filterMap_map]
    rfl
  rw [mail, hc, n.calls_blank, List.nil_append, heard, MeshOp.callbacks, Node.isRunning_mapFirmware]
  split
  · rw [List.filterMap_append, Node.mail?_news, List.append_nil, List.filterMap_map]
    exact congrFun List.filterMap_eq_map _
  · rfl

end Mesh

namespace Simulation

variable [Firmware φ]

theorem keeps_history {ops : List (SimulationOp φ)} {s : Simulation φ} {stages : List (Stage φ)}
    (h : s.history ops = .ok stages) (keeps : ∀ op ∈ ops, op.discards = false) :
    ∀ t ∈ stages, t.op.discards = false :=
  forall_history (P := fun op => op.discards = false) (fun _ _ => rfl) (fun _ => rfl) h
    fun op hop => keeps (.mesh op) hop

theorem messages_arrive_on_time {ops : List (SimulationOp φ)} {s s' : Simulation φ}
    (keeps : ∀ op ∈ ops, op.discards = false) (h : s.operateAll ops = .ok s') :
    ∃ stages, s.history ops = .ok stages ∧ Stage.Link s.mesh stages s'.mesh ∧
      (stages.flatMap (·.admitted)).Pairwise (·.number < ·.number) ∧
      (∀ (i j : Nat) (first t : Stage φ) (w : Waiting Message), stages[i]? = some first →
        w ∈ first.admitted → stages[j]? = some t →
          (w ∈ t.handled ↔ i < j ∧ t.Reaches w.time ∧
            ∀ (k : Nat) (u : Stage φ), i < k → k < j → stages[k]? = some u →
              ¬ u.Reaches w.time)) ∧
      (∀ (j : Nat) (t : Stage φ) (w : Waiting Message), stages[j]? = some t → w ∈ t.handled →
        w ∈ s.mesh.network.inFlight.queue ∨
          ∃ (i : Nat) (first : Stage φ), i < j ∧ stages[i]? = some first ∧ w ∈ first.admitted) ∧
      ∀ t ∈ stages, ∀ now, t.op = .update now →
        (t.handled.Pairwise fun v w => v.time < w.time ∨ v.time = w.time ∧ v.number < w.number) ∧
          ∃ report, t.before.update now = .ok (report, t.after) ∧
            t.before.HandsOver t.after now report := by
  obtain ⟨stages, hs, linked⟩ := exists_history h
  have keeps := keeps_history hs keeps
  refine ⟨stages, hs, linked, linked.numbers_ascending keeps,
    fun i j first t w hi hw hj => linked.handled_iff keeps hi hw hj,
    fun j t w hj hw => linked.origin keeps hj hw, fun t ht now hop => ⟨?_, ?_⟩⟩
  · rw [Stage.handled, hop]
    exact (t.before.network.inFlight.sorted.sublist (List.takeWhile_sublist _)).imp
      Waiting.before_iff.1
  · obtain ⟨events, step⟩ := linked.step ht
    rw [hop] at step
    obtain ⟨⟨report, mesh⟩, hu, step⟩ := Checked.bind_eq_ok.1 step
    cases step
    exact ⟨report, hu, Mesh.handsOver hu⟩

theorem messages_arrive_on_time_crashed_target :
    let s : Simulation Builtin := .seeded 1
    let ops : List (SimulationOp Builtin) :=
      [.mesh (.network (.configure (.defaultLatency (.fixed 4)))), .mesh (.fleet (.add ⟨1⟩)),
        .mesh (.fleet (.create .builtins { id := ⟨2⟩, firmware := "echo-server" })),
        .schedule (.start ⟨2⟩) 0, .schedule (.crash ⟨2⟩) 7,
        .mesh (.network (.enqueue ⟨⟨⟨1⟩, ⟨2⟩⟩, [7]⟩ 0)),
        .mesh (.network (.enqueue ⟨⟨⟨1⟩, ⟨2⟩⟩, [8]⟩ 3)), .advance 0, .runUntil 8 3]
    (∀ op ∈ ops, op.discards = false) ∧ ∃ stages, s.history ops = .ok stages ∧
      (stages.map fun t => (t.admitted.map (·.time), t.handled.map (·.time))) =
        [([], []), ([], []), ([], []), ([4], []), ([7], []), ([], []), ([], []), ([], []),
          ([10], [4]), ([], []), ([], [7])] ∧
      ∃ t, stages[10]? = some t ∧ ∀ w ∈ t.handled, ¬ w ∈ s.mesh.network.inFlight.queue →
        ∃ i first, i < 10 ∧ stages[i]? = some first ∧ w ∈ first.admitted := by
  intro s ops
  have keeps : ∀ op ∈ ops, op.discards = false := by
    decide +kernel
  have run : (fun _ => ()) <$> s.operateAll ops = .ok () := by
    decide +kernel
  have times : (List.map fun t => (t.admitted.map (·.time), t.handled.map (·.time))) <$>
      s.history ops = .ok [([], []), ([], []), ([], []), ([4], []), ([7], []), ([], []), ([], []),
        ([], []), ([10], [4]), ([], []), ([], [7])] := by
    decide +kernel
  obtain ⟨s', h, -⟩ := Checked.map_eq_ok.1 run
  obtain ⟨stages, hs, -, -, -, origin, -⟩ := messages_arrive_on_time keeps h
  rw [hs, Checked.map_ok, Except.ok.injEq] at times
  have length : stages.length = 11 := by
    rw [← List.length_map, times]
    rfl
  have bound : 10 < stages.length := by
    rw [length]
    decide
  have last : stages[10]? = some stages[10] := List.getElem?_eq_getElem bound
  exact ⟨keeps, stages, hs, times, _, last,
    fun w hw fresh => (origin 10 _ w last hw).resolve_left fresh⟩

end Simulation

end MeshNet
