import MeshNet.Proofs.Fleet.Nodewise

namespace MeshNet.Fleet

variable {φ : Type} {f g : Fleet φ} {μ : Node φ → Nat}

def tally (μ : Node φ → Nat) (f : Fleet φ) : Nat := MapSum.sum μ f.nodes

theorem tally_empty : (∅ : Fleet φ).tally μ = 0 := MapSum.sum_empty μ

theorem tally_insert {id : NodeId} {n : Node φ} (hn : f.find? id = some n) (m : Node φ) :
    ({ f with nodes := f.nodes.insert id m } : Fleet φ).tally μ + μ n = f.tally μ + μ m := by
  have sum := MapSum.sum_insert μ f.nodes id m
  rw [show f.nodes[id]? = some n from hn] at sum
  exact sum

theorem Nodewise.tally_eq {R : NodeId → Node φ → Node φ → Prop} (h : Nodewise R f g)
    (kept : ∀ id n m, R id n m → μ m = μ n) : g.tally μ = f.tally μ := by
  refine MapSum.sum_congr fun id => ?_
  change (g.find? id).map μ = (f.find? id).map μ
  cases hn : f.find? id with
  | none => rw [h.missing id hn]
  | some n =>
    obtain ⟨m, hm, hr⟩ := h.present id n hn
    rw [hm, Option.map_some, Option.map_some, kept id n m hr]

theorem Gains.tally_eq {n : Node φ} (h : f.Gains g n) : g.tally μ = f.tally μ + μ n := by
  have nodes : g.nodes = f.nodes.insert n.id n := by
    refine Std.ExtTreeMap.ext_getElem? fun id => ?_
    refine Eq.trans ?_ (f.find?_insert n.id id n).symm
    split
    · next he => exact he ▸ h.after
    · next ne => exact h.others id ne
  have sum := MapSum.sum_insert μ f.nodes n.id n
  rw [show f.nodes[n.id]? = none from h.before] at sum
  rw [tally, nodes]
  exact sum

theorem Loses.tally_eq {id : NodeId} {n : Node φ} (h : f.Loses g id) (hn : f.find? id = some n) :
    f.tally μ = μ n + g.tally μ := by
  have nodes : g.nodes = f.nodes.erase id := by
    refine Std.ExtTreeMap.ext_getElem? fun i => ?_
    refine Eq.trans ?_ (f.find?_erase id i f.retired).symm
    split
    · next he => exact he ▸ h.after
    · next ne => exact h.others i ne
  rw [tally, tally, nodes]
  exact MapSum.sum_erase μ hn

end MeshNet.Fleet
