import MeshNet.Firmware.Catalogue
import MeshNet.Proofs.Partition.Tags
import MeshNet.Proofs.Reach.Run

namespace MeshNet

namespace Event

def naming? (x : NodeId) : Event → Option Groups
  | partition groups => if x ∈ groups.flatten then some groups else none
  | _ => none

def grouping? (x : NodeId) (events : List Event) : Option Groups :=
  (sinceHeal events).findSome? (naming? x)

def tag (x : NodeId) (events : List Event) : UInt32 :=
  ((grouping? x events).bind (·.tag? x)).getD 0

def regroups : Event → Bool
  | partition _ | heal => true
  | _ => false

theorem tag_concat_heal (x : NodeId) (events : List Event) : tag x (events ++ [heal]) = 0 := by
  rw [tag, grouping?, sinceHeal_concat]
  rfl

theorem tag_concat_partition (x : NodeId) (events : List Event) (g : Groups) :
    tag x (events ++ [partition g]) = (g.tag? x).getD (tag x events) := by
  have hh : (partition g).isHeal = false := rfl
  rw [tag, grouping?, sinceHeal_concat, hh, if_neg Bool.false_ne_true, List.findSome?_cons,
    naming?, tag]
  by_cases hx : x ∈ g.flatten
  · obtain ⟨t, ht⟩ := Option.isSome_iff_exists.1 (Groups.isSome_tag?.2 hx)
    simp only [if_pos hx, Option.bind_some, ht, Option.getD_some]
  · have hn : g.tag? x = none := by
      rw [← Option.not_isSome_iff_eq_none, Groups.isSome_tag?]
      exact hx
    rw [if_neg hx, hn]
    rfl

end Event

def MeshOp.regroups {φ : Type} : MeshOp φ → Bool
  | execute e _ => e.regroups
  | update _ | network _ | fleet _ => false

namespace Mesh

variable {φ : Type}

structure Tagged (mesh : Mesh φ) (events : List Event) : Prop where
  cuts : Event.Explains events mesh.network.cuts
  tags : mesh.fleet.Every fun id n => n.partition = Event.tag id events
  regroups : ∀ e ∈ events, e.regroups = true

section Run

variable [Firmware φ]

theorem Tagged.effect {mesh : Mesh φ} {events : List Event} (h : mesh.Tagged events) {e : Event}
    (now : Time) (allowed : e.refusal? mesh.fleet = none) (regroups : e.regroups = true) :
    ∃ mesh', e.effect now mesh = .ok mesh' ∧ mesh'.Tagged (events ++ [e]) := by
  have valid := Event.valid_of_refusal? allowed
  have cuts := h.cuts.concat valid
  have regroups_all : ∀ e' ∈ events ++ [e], e'.regroups = true := by
    simpa [or_imp, forall_and] using ⟨h.regroups, regroups⟩
  cases e with
  | partition groups =>
    refine ⟨_, rfl, cuts, fun id n hn => ?_, regroups_all⟩
    rw [Fleet.find?_assignGroups _ (valid groups rfl).2.2, Option.map_eq_some_iff] at hn
    obtain ⟨n, hn, rfl⟩ := hn
    rw [Event.tag_concat_partition, h.tags id n hn]
  | heal =>
    refine ⟨_, rfl, cuts, fun id n hn => ?_, regroups_all⟩
    rw [Fleet.find?_map, Option.map_eq_some_iff] at hn
    obtain ⟨n, -, rfl⟩ := hn
    exact (Event.tag_concat_heal id events).symm
  | start id | stop id graceful | crash id | restart id | drop l | restore l
  | degrade l latency loss => cases regroups

theorem Tagged.step {mesh : Mesh φ} {events : List Event} (h : mesh.Tagged events) {op : MeshOp φ}
    (regroups : op.regroups = true) :
    ∃ r, mesh.step op = .ok r ∧ r.2.Tagged (events ++ r.1) := by
  cases op with
  | update now | network op | fleet op => cases regroups
  | execute e now =>
    cases hr : e.refusal? mesh.fleet with
    | some error =>
      refine ⟨([], mesh), by rw [Mesh.step, Event.perform_eq, hr]; rfl, ?_⟩
      rwa [List.append_nil]
    | none =>
      obtain ⟨mesh', he, ht⟩ := h.effect now hr regroups
      exact ⟨([e], mesh'), by rw [Mesh.step, Event.perform_eq, hr, he]; rfl, ht⟩

theorem Tagged.steps {mesh : Mesh φ} {events : List Event} (h : mesh.Tagged events)
    {ops : List (MeshOp φ)} (regroups : ∀ op ∈ ops, op.regroups = true) :
    ∃ r, steps ops mesh = .ok r ∧ r.2.Tagged (events ++ r.1) := by
  induction ops generalizing mesh events with
  | nil =>
    refine ⟨([], mesh), rfl, ?_⟩
    rwa [List.append_nil]
  | cons op ops ih =>
    rw [List.forall_mem_cons] at regroups
    obtain ⟨⟨first, mesh'⟩, ho, ht⟩ := h.step regroups.1
    obtain ⟨⟨rest, last⟩, hs, htl⟩ := ih ht regroups.2
    rw [List.append_assoc] at htl
    exact ⟨(first ++ rest, last), steps_cons_eq_ok.2 ⟨first, mesh', rest, ho, hs, rfl⟩, htl⟩

end Run

end Mesh

end MeshNet
