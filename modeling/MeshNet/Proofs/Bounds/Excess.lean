import MeshNet.Proofs.Bounds.Law
import MeshNet.Proofs.Network.Order

namespace MeshNet

open Guarded (lift)

namespace Network

structure Certain (n : Network) (l : Link) (latency : UInt32) : Prop where
  active : n.cuts.active l = true
  lossless : ¬ 0.0 < (n.conditions.lossFor l).val.probability
  fixed : n.FixedAt l latency
  tracked : n.conditions.Tracked l

variable {n : Network} {m : Message} {latency : UInt32} {now : Time}

theorem on_book (n : Network) (m : Message) (now : Time) (latency : UInt32) (c : Conditions) :
    (n.book m now (some latency, c)).2.traffic.on m.link =
      (n.traffic.on m.link).record latency := by
  change (n.traffic.update _ _).on _ = _
  rw [Traffic.on_update, if_pos rfl]

namespace Certain

theorem fate (h : n.Certain m.link latency) :
    n.conditions.sampleFate n.cuts m.link = (some latency, n.conditions) := by
  have drop : n.conditions.sampleDrop n.cuts m.link = (false, n.conditions) := by
    rw [Conditions.sampleDrop, if_pos h.active,
      Conditions.sampleLoss_of_lossless h.tracked h.lossless]
  have sampled := Conditions.sampleLatency_of_fixed (h.fixed.1.trans h.fixed.2.symm)
  rw [h.fixed.1] at sampled
  simp only [Conditions.sampleFate, drop, sampled]
  rfl

theorem book (h : n.Certain m.link latency) (now : Time) :
    (n.book m now (some latency, n.conditions)).2.Certain m.link latency :=
  ⟨h.active, h.lossless, h.fixed, h.tracked⟩

theorem delivered_enqueueAll (h : n.Certain m.link latency) (now : Time) (count : Nat) :
    ((n.enqueueAll now (.replicate count m)).2.traffic.on m.link).delivered =
      (n.traffic.on m.link).delivered + count := by
  induction count generalizing n with
  | zero => rfl
  | succ count ih =>
    have rest := ih (h.book now)
    rw [on_book, LinkStats.delivered_record] at rest
    rw [List.replicate_succ, enqueueAll, enqueue_eq, h.fate]
    change (((n.book m now _).2.enqueueAll now _).2.traffic.on m.link).delivered = _
    rw [rest]
    omega

theorem guardedEnqueueAll_overflows (h : n.Certain m.link latency) (now : Time) {count : Nat}
    (fits : (n.traffic.on m.link).total < UInt64.size)
    (large : UInt64.size ≤ (n.traffic.on m.link).total + count * latency.toNat) :
    ∃ sum, n.guardedEnqueueAll now (.replicate count m) = .error (.overflow .latencySum sum) := by
  induction count generalizing n with
  | zero => omega
  | succ count ih =>
    rw [List.replicate_succ, guardedEnqueueAll, guardedEnqueue,
      Conditions.guardedFate_eq h.tracked, h.fate, Guarded.ok_bind, guardedBook,
      Traffic.guardedRecord, LinkStats.guardedRecord]
    by_cases short : (n.traffic.on m.link).total + latency.toNat < UInt64.size
    · rw [Guarded.bounded_of_lt short]
      let next := (n.book m now (some latency, n.conditions)).2
      have counted : (next.traffic.on m.link).total =
          (n.traffic.on m.link).total + latency.toNat := by
        rw [on_book]
        rfl
      have left : UInt64.size ≤ (next.traffic.on m.link).total + count * latency.toNat := by
        rw [counted]
        rw [Nat.add_mul, Nat.one_mul] at large
        omega
      obtain ⟨sum, hs⟩ := ih (h.book now) (counted ▸ short) left
      refine ⟨sum, ?_⟩
      change (next.guardedEnqueueAll now _ >>= _) = _
      rw [hs]
      rfl
    · rw [Guarded.bounded_of_le (Nat.not_lt.mp short)]
      exact ⟨_, rfl⟩

end Certain

end Network

namespace Mesh

variable {φ : Type} [Firmware φ]

theorem guardedUpdate_eq_error {mesh : Mesh φ} {now : Time} {reached : List Bool}
    {fleet : Fleet φ} {breach : Breach}
    (hw : guardedWork mesh.fleet ((mesh.network.drain now).1.map (·.2)) mesh.network.cuts now =
      .ok (reached, fleet))
    (he : (mesh.network.drain now).2.guardedEnqueueAll now fleet.unsent = .error breach) :
    mesh.guardedUpdate now = .error breach := by
  have worked : mesh.guardedUpdate now =
      guardedWork mesh.fleet ((mesh.network.drain now).1.map (·.2)) mesh.network.cuts now >>=
        fun r => (mesh.network.drain now).2.guardedEnqueueAll now r.2.unsent >>= fun q =>
          r.2.guardedFlush >>= fun fleet => .ok (
            { delivered := r.1.count true
              undeliverable := r.1.count false
              sent := r.2.unsent.length
              admitted := q.1.countP Option.isSome }, ⟨fleet, q.2⟩) := rfl
  rw [worked, hw, Guarded.ok_bind, he, Guarded.error_bind]

end Mesh

structure Flood where
  count : Nat

namespace Flood

def drop : Outgoing := ⟨⟨2⟩, []⟩

instance : Firmware Flood where
  name _ := "flood"
  react f _ c := .ok {
    state := f
    sends := match c with
      | .tick => .replicate f.count drop
      | .setup | .receive _ _ | .newConnection _ | .changedConnections | .timeAdjusted _ => [] }

def catalogue (count : Nat) : Catalogue Flood :=
  ⟨(∅ : Std.ExtTreeMap String Flood).insert "flood" ⟨count⟩⟩

def setup : Setup where
  network := { seed := some 1, defaultLatency := .fixed 4294967295 }
  nodes := [{ id := ⟨1⟩, firmware := "flood" }]

def node (count : Nat) : Node Flood := { id := ⟨1⟩, device := some { firmware := ⟨count⟩ } }

def fleet (count : Nat) : Fleet Flood := (∅ : Fleet Flood).put (node count)

def running (count : Nat) : Fleet Flood :=
  (∅ : Fleet Flood).put { node count with session := some { startedAt := 0 } }

def full (count : Nat) : Fleet Flood :=
  { (∅ : Fleet Flood).put { node count with
      session := some { startedAt := 0, outbox := .replicate count drop } } with lastSeen := 1 }

theorem not_raises (fault : Fault) : ¬ Firmware.Raises Flood fault :=
  fun ⟨_, _, _, raised⟩ => nomatch raised

theorem createAll (count : Nat) :
    Fleet.createAll (catalogue count) setup.nodes ∅ = .ok (fleet count) := by
  have free : (∅ : Fleet Flood).obstacle? ⟨1⟩ = none := rfl
  have found : (catalogue count).create "flood" = .ok ⟨count⟩ := by
    rw [Catalogue.create, catalogue, Std.ExtTreeMap.getElem?_insert_self]
  have first : (∅ : Fleet Flood).create (catalogue count) { id := ⟨1⟩, firmware := "flood" } =
      .ok (fleet count) := by
    simp only [Fleet.create, free, found]
    rfl
  rw [Fleet.createAll, setup, List.foldlM_cons, first]
  rfl

theorem guardedWork (count : Nat) (cuts : Cuts) :
    Mesh.guardedWork (running count) [] cuts 1 = .ok ([], full count) := rfl

theorem unsent_full (count : Nat) :
    (full count).unsent = .replicate count (drop.sentBy ⟨1⟩) := by
  have sent : (full count).unsent = ((List.replicate count drop).map (·.sentBy ⟨1⟩)) ++ [] := rfl
  rw [sent, List.append_nil, List.map_replicate]

theorem exists_ofSetup (count : Nat) :
    ∃ conditions, Simulation.ofSetup (catalogue count) setup (.ofSeed 0) =
        .ok { mesh := ⟨fleet count, { conditions }⟩ } ∧
      Network.Certain { conditions } ⟨⟨1⟩, ⟨2⟩⟩ 4294967295 := by
  have valid : setup.network.check = .ok () := by decide +kernel
  obtain ⟨network, built⟩ :=
    discard_eq_ok.mp (valid ▸ Network.discard_ofSetup setup.network (.ofSeed 0))
  obtain ⟨conditions, rfl, force⟩ := Network.exists_inForce_of_ofSetup built
  have latency : (conditions.latencyFor ⟨⟨1⟩, ⟨2⟩⟩).val = .fixed 4294967295 := force.latency _
  have loss : (conditions.lossFor ⟨⟨1⟩, ⟨2⟩⟩).val = {} := force.loss _
  refine ⟨conditions, ?_, Cuts.active_empty _, ?_, ?_, ?_⟩
  · rw [Simulation.ofSetup, built, createAll]
    rfl
  · rw [loss]
    decide +kernel
  · exact ⟨congrArg LatencyModel.min latency, congrArg LatencyModel.max latency⟩
  · refine Conditions.tracked_of_bursts ?_
    rw [force.calm]
    exact Std.ExtTreeMap.getElem?_empty

end Flood

/-- One group for each id. -/
def Groups.apart : Groups := (List.range UInt32.size).map fun n => [⟨.ofNat n⟩]

theorem Groups.length_apart : apart.length = UInt32.size := by
  rw [apart, List.length_map, List.length_range]

theorem Groups.valid_apart : apart.Valid := by
  refine ⟨length_apart ▸ by decide, fun none => ?_, ?_⟩
  · obtain ⟨n, -, hn⟩ := List.mem_map.mp none
    cases hn
  · have ids : apart.flatten = (List.range UInt32.size).map fun n => ⟨.ofNat n⟩ := by
      rw [apart, ← List.flatMap_def, List.map_eq_flatMap]
    rw [ids]
    refine List.nodup_range.map_on fun a ha b hb same => ?_
    have words := congrArg (fun id : NodeId => id.val.toNat) same
    simpa [UInt32.toNat_ofNat_of_lt' (List.mem_range.mp ha),
      UInt32.toNat_ofNat_of_lt' (List.mem_range.mp hb)] using words

namespace Simulation

variable {φ : Type} [Firmware φ]

theorem guardedDriveAll_stops {s s' : Simulation φ} {ledger : Ledger φ} {d e : Drive}
    {breach : Breach} (first : s.guardedDrive d = .ok (ledger, s'))
    (second : s'.guardedDrive e = .error breach) : s.guardedDriveAll [d, e] = .error breach := by
  simp only [guardedDriveAll, first, second, Guarded.ok_bind, Guarded.error_bind]

theorem guardedDriveAll_of_large {g : Groups} (valid : g.Valid) (large : UInt32.size ≤ g.length)
    (mesh : Mesh φ) :
    guardedDriveAll [.schedule (.partition g) 0, .advance 0] { mesh } =
      .error (.overflow .groupNumber g.length) := by
  let s : Simulation φ := ({ mesh } : Simulation φ).schedule (.partition g) 0
  have number : (Event.partition g).guardNumbers = .error (.overflow .groupNumber g.length) := by
    rw [Event.guardNumbers, if_pos valid, Guarded.bounded_of_le large]
    rfl
  have due : s.agenda.pending.ready (max s.clock 0) = [⟨0, 0, .partition g⟩] := rfl
  have stops : s.guardedAdvance 0 = .error (.overflow .groupNumber g.length) := by
    simp only [guardedAdvance, Agenda.guardedRun, due, Agenda.guardedPerformAll, number,
      Guarded.error_bind]
  have scheduled : ({ mesh } : Simulation φ).guardedDrive (.schedule (.partition g) 0) =
      .ok ({}, s) := rfl
  refine guardedDriveAll_stops scheduled ?_
  rw [guardedDrive, stops, Guarded.error_bind]

section Flooded

variable {count : Nat} {conditions : Conditions} {latency : UInt32}

theorem drive_startAll_flood :
    ({ mesh := ⟨Flood.fleet count, { conditions }⟩ } : Simulation Flood).drive .startAll =
      .ok ({}, { mesh := ⟨Flood.running count, { conditions }⟩ }) := rfl

theorem guardedDriveAll_flood (certain : Network.Certain { conditions } ⟨⟨1⟩, ⟨2⟩⟩ latency)
    (large : UInt64.size ≤ count * latency.toNat) :
    ∃ sum, guardedDriveAll [.startAll, .advance 1]
        { mesh := ⟨Flood.fleet count, { conditions }⟩ } = .error (.overflow .latencySum sum) := by
  let mesh : Mesh Flood := ⟨Flood.running count, { conditions }⟩
  have enough : UInt64.size ≤
      (({ conditions } : Network).traffic.on ⟨⟨1⟩, ⟨2⟩⟩).total + count * latency.toNat :=
    Nat.le_trans large (Nat.le_add_left _ _)
  obtain ⟨sum, overflows⟩ := certain.guardedEnqueueAll_overflows (m := Flood.drop.sentBy ⟨1⟩) 1
    (Nat.two_pow_pos 64) enough
  rw [← Flood.unsent_full] at overflows
  have stops : mesh.guardedUpdate 1 = .error (.overflow .latencySum sum) :=
    Mesh.guardedUpdate_eq_error (Flood.guardedWork count ∅) overflows
  have advanced : guardedAdvance { mesh } 1 = .error (.overflow .latencySum sum) := by
    have idle : guardedAdvance { mesh } 1 = mesh.guardedUpdate 1 >>= fun r => .ok
      ({ now := 1, executed := 0, failed := 0, update := r.1 },
        { clock := 1, mesh := r.2 }) := rfl
    rw [idle, stops, Guarded.error_bind]
  refine ⟨sum, guardedDriveAll_stops (congrArg lift drive_startAll_flood) ?_⟩
  rw [guardedDrive, advanced, Guarded.error_bind]

theorem delivered_flood (certain : Network.Certain { conditions } ⟨⟨1⟩, ⟨2⟩⟩ latency)
    {ledger : Ledger Flood} {s : Simulation Flood}
    (hs : driveAll [.startAll, .advance 1] { mesh := ⟨Flood.fleet count, { conditions }⟩ } =
      .ok (ledger, s)) :
    (s.mesh.network.traffic.on ⟨⟨1⟩, ⟨2⟩⟩).delivered = count := by
  obtain ⟨⟨started, awake⟩, first, hs⟩ := Checked.bind_eq_ok.mp hs
  rw [drive_startAll_flood] at first
  cases first
  obtain ⟨⟨rest, last⟩, hs, kept⟩ := Checked.bind_eq_ok.mp hs
  obtain ⟨⟨advanced, after⟩, second, hs⟩ := Checked.bind_eq_ok.mp hs
  cases hs
  cases kept
  obtain ⟨⟨report, next⟩, second, counted⟩ := Checked.bind_eq_ok.mp second
  cases counted
  obtain ⟨verdicts, mesh, update, performed, updated, -⟩ := advance_eq_ok second
  cases performed
  obtain ⟨reached, fleet, worked, -, left⟩ := Mesh.update_eq_ok updated
  cases worked
  have offered := certain.delivered_enqueueAll (m := Flood.drop.sentBy ⟨1⟩) 1 count
  rw [← Flood.unsent_full] at offered
  rw [left]
  exact offered.trans (Nat.zero_add count)

end Flooded

/-- Each of these runs ends well if its words are long enough. -/
theorem group_numbers_and_latency_sums_overflow :
    let count := 2 ^ 32 + 2
    let parted : List Drive := [.schedule (.partition .apart) 0, .advance 0]
    let flooded : List Drive := [.startAll, .advance 1]
    (∀ fault, ¬ Firmware.Raises Flood fault) ∧
    ∃ s₀, Simulation.ofSetup (Flood.catalogue count) Flood.setup (.ofSeed 0) = .ok s₀ ∧
      (∃ r, s₀.driveAll parted = .ok r) ∧
      s₀.guardedDriveAll parted = .error (.overflow .groupNumber (2 ^ 32)) ∧
      (∃ ledger s, s₀.driveAll flooded = .ok (ledger, s) ∧
        (s.mesh.network.traffic.on ⟨⟨1⟩, ⟨2⟩⟩).delivered = count) ∧
      ∃ sum, s₀.guardedDriveAll flooded = .error (.overflow .latencySum sum) := by
  intro count parted flooded
  obtain ⟨conditions, built, certain⟩ := Flood.exists_ofSetup count
  obtain ⟨timely, -⟩ := timely_and_tracked_ofSetup built
  have completes := exists_driveAll timely Flood.not_raises
  have large : UInt64.size ≤ count * (4294967295 : UInt32).toNat := by decide +kernel
  obtain ⟨⟨ledger, s⟩, hs⟩ := completes flooded
  refine ⟨Flood.not_raises, _, built, completes parted, ?_,
    ⟨ledger, s, hs, delivered_flood certain hs⟩, guardedDriveAll_flood certain large⟩
  rw [guardedDriveAll_of_large Groups.valid_apart (Nat.le_of_eq Groups.length_apart.symm),
    Groups.length_apart]
  rfl

end Simulation

end MeshNet
