import Mathlib.Data.List.Nodup
import MeshNet.Proofs.Fleet.Step
import MeshNet.Proofs.Reach.Verdict

namespace MeshNet

namespace Groups

def index? (g : Groups) (x : NodeId) : Option Nat := g.findIdx? (x ∈ ·)

theorem index?_cons (group : List NodeId) (g : Groups) (x : NodeId) :
    index? (group :: g) x = if x ∈ group then some 0 else (g.index? x).map (· + 1) := by
  rw [index?, List.findIdx?_cons, index?]
  simp only [decide_eq_true_eq]

theorem isSome_index? {g : Groups} {x : NodeId} : (g.index? x).isSome ↔ x ∈ g.flatten := by
  rw [index?, List.findIdx?_isSome, List.any_eq_true, List.mem_flatten]
  simp only [decide_eq_true_eq]

theorem length_le {g : Groups} (h : g.Valid) : g.length ≤ UInt32.size := by
  obtain ⟨-, nonempty, nodup⟩ := h
  have groups : g.length ≤ g.flatten.length := by
    have each : ∀ k ∈ g.map List.length, 1 ≤ k := by
      intro k hk
      obtain ⟨group, hg, rfl⟩ := List.mem_map.1 hk
      exact List.length_pos_iff.2 fun he => nonempty (he ▸ hg)
    simpa [List.length_flatten] using List.length_le_sum_of_one_le _ each
  have injective : Function.Injective fun id : NodeId => id.val.toNat := by
    intro ⟨v⟩ ⟨w⟩ hvw
    exact congrArg NodeId.mk (UInt32.toNat_inj.1 hvw)
  have within : g.flatten.map (fun id => id.val.toNat) ⊆ List.range UInt32.size := by
    intro k hk
    obtain ⟨id, -, rfl⟩ := List.mem_map.1 hk
    exact List.mem_range.2 id.val.toNat_lt
  have bound := (List.subperm_of_subset (nodup.map injective) within).length_le
  rw [List.length_map, List.length_range] at bound
  exact groups.trans bound

def tag? (g : Groups) (x : NodeId) : Option UInt32 := (g.index? x).map fun i => .ofNat (i + 1)

theorem isSome_tag? {g : Groups} {x : NodeId} : (g.tag? x).isSome ↔ x ∈ g.flatten := by
  rw [tag?, Option.isSome_map, isSome_index?]

end Groups

namespace Fleet

variable {φ : Type}

theorem find?_assign (f : Fleet φ) (id x : NodeId) (tag : UInt32) :
    (f.assign id tag).find? x =
      (f.find? x).map fun n => if x = id then { n with partition := tag } else n := by
  rw [find?, assign, modify, Std.ExtTreeMap.getElem?_modify, find?]
  split
  · next hc =>
    obtain rfl := Std.compare_eq_iff_eq.1 hc
    simp
  · next hc =>
    have ne : x ≠ id := fun he => hc (Std.compare_eq_iff_eq.2 he.symm)
    simp [ne]

theorem find?_foldl_assign (f : Fleet φ) (ids : List NodeId) (x : NodeId) (tag : UInt32) :
    (ids.foldl (·.assign · tag) f).find? x =
      (f.find? x).map fun n => if x ∈ ids then { n with partition := tag } else n := by
  induction ids generalizing f with
  | nil => simp
  | cons id ids ih =>
    rw [List.foldl_cons, ih, find?_assign, Option.map_map]
    congr 1
    funext n
    simp only [Function.comp_def, List.mem_cons]
    by_cases hx : x = id <;> by_cases hi : x ∈ ids <;> simp [hx, hi]

theorem find?_assignGroups (f : Fleet φ) {g : Groups} (nodup : g.flatten.Nodup) (x : NodeId) :
    (f.assignGroups g).find? x =
      (f.find? x).map fun n => { n with partition := (g.tag? x).getD n.partition } := by
  -- The groups that are still to come are numbered from `k` on.
  have counted (k : Nat) (f : Fleet φ) :
      ((g.zipIdx k).foldl (fun f group => group.1.foldl (·.assign · (.ofNat group.2)) f) f).find? x =
        (f.find? x).map fun n => { n with
          partition := ((g.index? x).map fun i => UInt32.ofNat (i + k)).getD n.partition } := by
    induction g generalizing k f with
    | nil => simp [Groups.index?]
    | cons group g ih =>
      rw [List.flatten_cons, List.nodup_append] at nodup
      obtain ⟨-, rest, apart⟩ := nodup
      rw [List.zipIdx_cons, List.foldl_cons, ih rest, find?_foldl_assign, Option.map_map,
        Groups.index?_cons]
      congr 1
      funext n
      by_cases hx : x ∈ group
      · have later : Groups.index? g x = none := by
          rw [← Option.not_isSome_iff_eq_none, Groups.isSome_index?]
          exact fun hr => apart x hx x hr rfl
        simp [hx, later]
      · cases Groups.index? g x with
        | none => simp [hx]
        | some i =>
          have number : i + (k + 1) = i + 1 + k := by omega
          simp only [hx, if_false, Option.map_some, Option.getD_some, number, Function.comp_def]
  exact counted 1 f

end Fleet

end MeshNet
