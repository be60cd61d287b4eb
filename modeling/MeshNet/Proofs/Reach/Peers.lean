import MeshNet.Proofs.Conservation.Exchange
import MeshNet.Proofs.Fleet.Step

namespace MeshNet

variable {φ : Type}

namespace Fleet

def peersOf (f : Fleet φ) (id : NodeId) : List NodeId := ((f.find? id).map (·.peers)).getD []

theorem peersOf_of_find? {f : Fleet φ} {id : NodeId} {n : Node φ} (h : f.find? id = some n) :
    f.peersOf id = n.peers := by
  rw [peersOf, h, Option.map_some, Option.getD_some]

theorem peersOf_of_missing {f : Fleet φ} {id : NodeId} (h : f.find? id = none) :
    f.peersOf id = [] := by
  rw [peersOf, h, Option.map_none, Option.getD_none]

theorem mem_runningIds {f : Fleet φ} {id : NodeId} : id ∈ f.runningIds ↔ f.runs id := by
  rw [runningIds, runs, find?, List.mem_map]
  simp only [List.mem_filter, Prod.exists, exists_and_right, exists_eq_right,
    Std.ExtTreeMap.mem_toList_iff_getElem?_eq_some, Option.any_eq_true]

theorem peersOf_each {f g : Fleet φ} {act : Node φ → Checked (Node φ)} (h : f.each act = .ok g)
    (keeps : ∀ n m, act n = .ok m → m.peers = n.peers) (id : NodeId) :
    g.peersOf id = f.peersOf id := by
  obtain ⟨missing, acted⟩ := find?_each h id
  cases hn : f.find? id with
  | none => rw [peersOf_of_missing hn, peersOf_of_missing (missing hn)]
  | some n =>
    obtain ⟨m, hm, hg⟩ := acted n hn
    rw [peersOf_of_find? hn, peersOf_of_find? hg, keeps n m hm]

theorem peersOf_flush (f : Fleet φ) (id : NodeId) : (f.map .flush).peersOf id = f.peersOf id := by
  have kept (n : Node φ) : n.flush.peers = n.peers := by
    rw [Node.peers, Node.flush, Node.peers, Option.map_map]
    rfl
  rw [peersOf, find?_map, Option.map_map, peersOf]
  simp only [Function.comp_def, kept]

variable [Firmware φ]

theorem peersOf_tickAll {f g : Fleet φ} {now : Time} (h : f.tickAll now = .ok g) (id : NodeId) :
    g.peersOf id = f.peersOf id := by
  refine peersOf_each h (fun n m hm => ?_) id
  obtain ⟨device, sent, rfl⟩ := Node.call_eq_ok hm
  rw [Node.peers, Option.map_map]
  rfl

theorem peersOf_refreshAll {f g : Fleet φ} {now : Time} {cuts : Cuts}
    (h : f.refreshAll now cuts = .ok g) (keyed : f.Keyed) (id : NodeId) :
    g.peersOf id = if f.runs id then reachable f.runningIds cuts id else [] := by
  rw [refreshAll] at h
  obtain ⟨missing, acted⟩ := find?_each h id
  cases hn : f.find? id with
  | none => simp [peersOf_of_missing (missing hn), runs, hn]
  | some n =>
    obtain ⟨m, hm, hg⟩ := acted n hn
    have runs_id : f.runs id = n.isRunning := by
      rw [runs, hn]
      rfl
    rw [peersOf_of_find? hg, runs_id]
    split at hm
    · next running =>
      obtain ⟨device, sent, rfl⟩ := Node.refreshPeers_eq_ok hm
      obtain ⟨session, hs⟩ := Option.isSome_iff_exists.1 running
      rw [if_pos running, Node.peers, hs, keyed id n hn]
      rfl
    · next stopped =>
      cases hm
      rw [if_neg stopped, Node.peers_of_stopped (Option.not_isSome_iff_eq_none.1 stopped)]

theorem mem_peersOf_refreshAll {f g : Fleet φ} {now : Time} {cuts : Cuts}
    (h : f.refreshAll now cuts = .ok g) (keyed : f.Keyed) {id peer : NodeId} :
    peer ∈ g.peersOf id ↔ f.runs id ∧ f.runs peer ∧ peer ≠ id ∧ cuts.active ⟨id, peer⟩ := by
  rw [peersOf_refreshAll h keyed]
  split
  · next running =>
    simp only [reachable, List.mem_filter, mem_runningIds, decide_eq_true_eq, running, true_and]
  · next stopped => simp [stopped]

theorem runs_deliverAll {f g : Fleet φ} {now : Time} {ms : List Message} {reached : List Bool}
    (h : deliverAll now ms f = .ok (reached, g)) : g.runs = f.runs := by
  induction ms generalizing f reached with
  | nil =>
    cases h
    rfl
  | cons m ms ih =>
    obtain ⟨⟨r, f'⟩, hd, h⟩ := Checked.bind_eq_ok.1 h
    obtain ⟨⟨rs, f''⟩, hs, h⟩ := Checked.bind_eq_ok.1 h
    cases h
    rw [ih hs, (runs_deliver hd).2]

end Fleet

theorem Network.cuts_enqueueAll (now : Time) (ms : List Message) (n : Network) :
    (n.enqueueAll now ms).2.cuts = n.cuts := by
  induction ms generalizing n with
  | nil => rfl
  | cons m ms ih => exact (ih _).trans (n.cuts_enqueue m now)

namespace Mesh

variable [Firmware φ]

theorem update_peers {mesh mesh' : Mesh φ} {now : Time} {report : UpdateReport}
    (h : mesh.update now = .ok (report, mesh')) (keyed : mesh.fleet.Keyed) :
    mesh'.fleet.Keyed ∧ mesh'.network.cuts = mesh.network.cuts ∧
      ∀ id peer, peer ∈ mesh'.fleet.peersOf id ↔
        mesh.fleet.runs id ∧ mesh.fleet.runs peer ∧ peer ≠ id ∧
          mesh.network.cuts.active ⟨id, peer⟩ := by
  obtain ⟨reached, k, hw, -, rfl⟩ := update_eq_ok h
  obtain ⟨f, g, hd, hr, ht⟩ := work_eq_ok hw
  have keyed : f.Keyed := (keyed.observe now).deliverAll hd
  have runs : f.runs = mesh.fleet.runs := Fleet.runs_deliverAll (f := mesh.fleet.observe now) hd
  refine ⟨((keyed.refreshAll hr).tickAll ht).map fun _ _ hn => hn, Network.cuts_enqueueAll .., ?_⟩
  intro id peer
  rw [Fleet.peersOf_flush, Fleet.peersOf_tickAll ht, Fleet.mem_peersOf_refreshAll hr keyed, runs]

end Mesh

end MeshNet
