import MeshNet.Proofs.Reach.Run

namespace MeshNet

theorem Link.compare_eq_lt_iff {k l : Link} : compare k l = .lt ↔
    k.source.val < l.source.val ∨ (k.source = l.source ∧ k.target.val < l.target.val) := by
  have same : k.source = l.source ↔ k.source.val = l.source.val :=
    ⟨congrArg NodeId.val, fun h => congrArg NodeId.mk h⟩
  change (compare k.source.val l.source.val).then (compare k.target.val l.target.val) = .lt ↔ _
  rw [Ordering.then_eq_lt, Std.compare_eq_lt, Std.compare_eq_lt, Std.compare_eq_iff_eq, same]

theorem Cuts.mem_toList {s : Cuts} {l : Link} : l ∈ s.toList ↔ s.active l = false := by
  rw [active_eq_false_iff, toList, Std.ExtTreeSet.mem_toList]

theorem Cuts.toList_ascending (s : Cuts) : s.toList.Pairwise fun k l =>
    k.source.val < l.source.val ∨ (k.source = l.source ∧ k.target.val < l.target.val) :=
  s.links.ordered_toList.imp Link.compare_eq_lt_iff.1

namespace Mesh

variable {φ : Type} [Firmware φ]

theorem latest_event_decides_reachability (conditions : Conditions) {ops : List (MeshOp φ)}
    (byEvents : ∀ op ∈ ops, op.rewires = false) {events : List Event} {mesh : Mesh φ}
    (h : steps ops { network := { conditions } } = .ok (events, mesh)) :
    (∀ x y, mesh.network.cuts.active ⟨x, y⟩ = false ↔
      ∃ e, Event.latest? x y events = some e ∧ e.isRestore = false) ∧
    (∀ l, (l ∈ mesh.network.cuts.toList ↔ mesh.network.cuts.active l = false) ∧
      (l.reverse ∈ mesh.network.cuts.toList ↔ l ∈ mesh.network.cuts.toList)) ∧
    (mesh.network.cuts.toList.Pairwise fun k l =>
      k.source.val < l.source.val ∨ (k.source = l.source ∧ k.target.val < l.target.val)) ∧
    (∀ x, mesh.network.cuts.active ⟨x, x⟩ = false →
      Event.latest? x x events = some (.drop ⟨x, x⟩)) ∧
    (∀ now report mesh', mesh.update now = .ok (report, mesh') →
      ∀ a b, a ∈ mesh'.fleet.peersOf b ↔ b ∈ mesh'.fleet.peersOf a) ∧
    ∀ (s s' : Simulation φ) now report, s.mesh = mesh → s.advance now = .ok (report, s') →
      ∃ more later, (∀ op ∈ more, op.rewires = false) ∧ later.length = report.executed ∧
        steps (ops ++ more) { network := { conditions } } = .ok (events ++ later, s'.mesh) := by
  have start : ({ network := { conditions } } : Mesh φ).Traced [] := ⟨.nil, Fleet.Every.empty⟩
  have traced : mesh.Traced events := start.steps byEvents h
  refine ⟨fun x y => traced.cuts.active_iff, fun l => ⟨Cuts.mem_toList, ?_⟩,
    Cuts.toList_ascending _,
    fun x => traced.cuts.latest?_self, fun now report mesh' hu a b => ?_,
    fun s s' now report hs ha => ?_⟩
  · rw [Cuts.mem_toList, Cuts.mem_toList, traced.cuts.active_reverse]
  · obtain ⟨-, -, peers⟩ := update_peers hu traced.keyed
    have hr : mesh.network.cuts.active ⟨a, b⟩ = mesh.network.cuts.active ⟨b, a⟩ :=
      traced.cuts.active_reverse ⟨b, a⟩
    rw [peers, peers, hr]
    tauto
  · obtain ⟨more, later, hm, executed, run⟩ := Simulation.steps_of_advance ha
    exact ⟨more, later, hm, executed, by rw [steps_append h, ← hs, run]; rfl⟩

theorem latest_event_decides_reachability_overlapping_partitions :
    let conditions : Conditions := { source := .seeded 1 }
    let ops : List (MeshOp Builtin) :=
      [.fleet (.add ⟨1⟩), .fleet (.create .builtins { id := ⟨2⟩, firmware := "echo-server" }),
        .fleet (.add ⟨3⟩), .execute (.start ⟨1⟩) 0, .execute (.drop ⟨⟨1⟩, ⟨2⟩⟩) 1, .execute .heal 2,
        .fleet (.startAll 3), .execute (.drop ⟨⟨3⟩, ⟨3⟩⟩) 4,
        .execute (.partition [[⟨1⟩], [⟨2⟩, ⟨3⟩]]) 5, .execute (.partition [[⟨2⟩], [⟨2⟩, ⟨3⟩]]) 6,
        .network (.enqueue ⟨⟨⟨1⟩, ⟨2⟩⟩, [7]⟩ 7), .execute (.restore ⟨⟨2⟩, ⟨1⟩⟩) 8, .update 9,
        .execute (.crash ⟨9⟩) 10, .execute (.degrade ⟨⟨1⟩, ⟨3⟩⟩ 5 0.5) 11]
    (∀ op ∈ ops, op.rewires = false) ∧
    ∃ events mesh, steps ops { network := { conditions } } = .ok (events, mesh) ∧
      (∃ e, Event.latest? ⟨3⟩ ⟨1⟩ events = some e ∧ e.isRestore = false) ∧
      (¬ ∃ e, Event.latest? ⟨1⟩ ⟨2⟩ events = some e ∧ e.isRestore = false) ∧
      Event.latest? ⟨3⟩ ⟨3⟩ events = some (.drop ⟨⟨3⟩, ⟨3⟩⟩) ∧
      ∃ report mesh', mesh.update 12 = .ok (report, mesh') ∧ mesh'.fleet.peersOf ⟨1⟩ = [⟨2⟩] ∧
        (⟨1⟩ ∈ mesh'.fleet.peersOf ⟨2⟩ ↔ ⟨2⟩ ∈ mesh'.fleet.peersOf ⟨1⟩) := by
  intro conditions ops
  have byEvents : ∀ op ∈ ops, op.rewires = false := by
    decide +kernel
  have cuts : (fun r : List Event × Mesh Builtin => r.2.network.cuts.toList) <$>
      steps ops { network := { conditions } } =
        .ok [⟨⟨1⟩, ⟨3⟩⟩, ⟨⟨3⟩, ⟨1⟩⟩, ⟨⟨3⟩, ⟨3⟩⟩] := by
    decide +kernel
  have peers : (fun r : List Event × Mesh Builtin =>
        (fun u => u.2.fleet.peersOf ⟨1⟩) <$> r.2.update 12) <$>
      steps ops { network := { conditions } } = .ok (.ok [⟨2⟩]) := by
    decide +kernel
  obtain ⟨⟨events, mesh⟩, h, hc⟩ := Checked.map_eq_ok.1 cuts
  rw [h, Checked.map_ok, Except.ok.injEq] at peers
  obtain ⟨⟨report, mesh'⟩, hu, hp⟩ := Checked.map_eq_ok.1 peers
  obtain ⟨decided, -, -, self, symmetric, -⟩ :=
    latest_event_decides_reachability conditions byEvents h
  have active (l : Link) : mesh.network.cuts.active l = false ↔
      l ∈ ([⟨⟨1⟩, ⟨3⟩⟩, ⟨⟨3⟩, ⟨1⟩⟩, ⟨⟨3⟩, ⟨3⟩⟩] : List Link) := by
    rw [← hc, Cuts.mem_toList]
  refine ⟨byEvents, events, mesh, h, ?_, ?_, ?_, report, mesh', hu, hp, symmetric 12 _ _ hu _ _⟩
  · rw [← decided, active]
    decide
  · rw [← decided, active]
    decide
  · exact self ⟨3⟩ ((active _).2 (by decide))

end Mesh

end MeshNet
