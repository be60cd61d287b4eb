import Mathlib

namespace MeshNet.MapSum

open Std (ExtTreeMap)

variable {κ α : Type} [Ord κ] [Std.TransOrd κ]

theorem values_eq (t : ExtTreeMap κ α) : t.values = t.toList.map (·.2) := by
  cases t with
  | mk inner =>
    induction inner using Std.ExtDTreeMap.inductionOn with
    | _ m =>
      change m.inner.values = (Std.DTreeMap.Internal.Impl.Const.toList m.inner).map (·.2)
      rw [Std.DTreeMap.Internal.Impl.values_eq_map_snd,
        Std.DTreeMap.Internal.Impl.Const.toList_eq_toListModel_map, List.map_map]
      rfl

theorem mem_values [Std.LawfulEqOrd κ] {t : ExtTreeMap κ α} {k : κ} {a : α} (h : t[k]? = some a) :
    a ∈ t.values := by
  rw [values_eq]
  exact List.mem_map_of_mem (ExtTreeMap.mem_toList_iff_getElem?_eq_some.2 h)

theorem nodup_toList (t : ExtTreeMap κ α) : t.toList.Nodup := by
  refine t.distinct_keys_toList.imp fun {a b} hab he => hab ?_
  rw [he]
  exact Std.ReflCmp.compare_self

def sum (μ : α → Nat) (t : ExtTreeMap κ α) : Nat := (t.values.map μ).sum

theorem sum_eq (μ : α → Nat) (t : ExtTreeMap κ α) :
    sum μ t = (t.toList.map fun e => μ e.2).sum := by
  rw [sum, values_eq, List.map_map]
  rfl

theorem sum_empty (μ : α → Nat) : sum μ (∅ : ExtTreeMap κ α) = 0 := by
  rw [sum_eq, ExtTreeMap.toList_eq_nil_iff.2 rfl]
  rfl

theorem sum_map {β : Type} (μ : β → Nat) (g : α → β) (t : ExtTreeMap κ α) :
    sum μ (t.map fun _ a => g a) = sum (fun a => μ (g a)) t := by
  rw [sum_eq, sum_eq, ExtTreeMap.toList_map, List.map_map]
  rfl

theorem sum_add (μ ν : α → Nat) (t : ExtTreeMap κ α) :
    sum (fun a => μ a + ν a) t = sum μ t + sum ν t :=
  List.sum_map_add

variable [Std.LawfulEqOrd κ]

theorem sum_congr {β : Type} {μ : α → Nat} {ν : β → Nat} {t : ExtTreeMap κ α} {u : ExtTreeMap κ β}
    (h : ∀ k : κ, t[k]?.map μ = u[k]?.map ν) : sum μ t = sum ν u := by
  have entries : (t.map fun _ a => μ a) = u.map fun _ b => ν b := by
    refine ExtTreeMap.ext_getElem? fun k => ?_
    rw [ExtTreeMap.getElem?_map, ExtTreeMap.getElem?_map, h]
  have totals := congrArg (sum id) entries
  rwa [sum_map, sum_map] at totals

theorem toList_insert_perm (t : ExtTreeMap κ α) (k : κ) (v : α) :
    (t.insert k v).toList.Perm ((k, v) :: (t.erase k).toList) := by
  have hn : (k, v) ∉ (t.erase k).toList := by
    simp [ExtTreeMap.mem_toList_iff_getElem?_eq_some]
  refine (List.perm_ext_iff_of_nodup (nodup_toList _)
    (List.nodup_cons.2 ⟨hn, nodup_toList _⟩)).2 fun e => ?_
  obtain ⟨l, w⟩ := e
  rw [List.mem_cons, ExtTreeMap.mem_toList_iff_getElem?_eq_some,
    ExtTreeMap.mem_toList_iff_getElem?_eq_some, ExtTreeMap.getElem?_insert,
    ExtTreeMap.getElem?_erase]
  split
  · next h =>
    obtain rfl := Std.compare_eq_iff_eq.1 h
    simp [eq_comm]
  · next h =>
    have hl : l ≠ k := fun he => h (Std.compare_eq_iff_eq.2 he.symm)
    simp [hl]

theorem toList_erase_perm {t : ExtTreeMap κ α} {k : κ} {v : α} (h : t[k]? = some v) :
    t.toList.Perm ((k, v) :: (t.erase k).toList) := by
  have ht : t.insert k v = t := by
    refine ExtTreeMap.ext_getElem? fun l => ?_
    rw [ExtTreeMap.getElem?_insert]
    split
    · next hl => rw [← Std.compare_eq_iff_eq.1 hl, h]
    · rfl
  have hp := toList_insert_perm t k v
  rw [ht] at hp
  exact hp

variable (μ : α → Nat)

theorem sum_erase {t : ExtTreeMap κ α} {k : κ} {v : α} (h : t[k]? = some v) :
    sum μ t = μ v + sum μ (t.erase k) := by
  rw [sum_eq, sum_eq, ((toList_erase_perm h).map _).sum_eq, List.map_cons, List.sum_cons]

theorem erase_of_none {t : ExtTreeMap κ α} {k : κ} (h : t[k]? = none) : t.erase k = t := by
  refine ExtTreeMap.ext_getElem? fun l => ?_
  rw [ExtTreeMap.getElem?_erase]
  split
  · next hl => rw [← Std.compare_eq_iff_eq.1 hl, h]
  · rfl

theorem sum_insert (t : ExtTreeMap κ α) (k : κ) (v : α) :
    sum μ (t.insert k v) + (t[k]?.map μ).getD 0 = sum μ t + μ v := by
  have hi : sum μ (t.insert k v) = μ v + sum μ (t.erase k) := by
    rw [sum_eq, sum_eq, ((toList_insert_perm t k v).map _).sum_eq, List.map_cons, List.sum_cons]
  cases h : t[k]? with
  | none =>
    rw [erase_of_none h] at hi
    simp only [Option.map_none, Option.getD_none]
    omega
  | some w =>
    have hw := sum_erase μ h
    simp only [Option.map_some, Option.getD_some]
    omega

theorem sum_modify {g : α → α} (kept : ∀ a, μ (g a) = μ a) (t : ExtTreeMap κ α) (k : κ) :
    sum μ (t.modify k g) = sum μ t := by
  cases h : t[k]? with
  | none =>
    have ht : t.modify k g = t := by
      refine ExtTreeMap.ext_getElem? fun l => ?_
      rw [ExtTreeMap.getElem?_modify]
      split
      · next hl =>
        rw [← Std.compare_eq_iff_eq.1 hl, h]
        rfl
      · rfl
    rw [ht]
  | some v =>
    have ht : t.modify k g = t.insert k (g v) := by
      refine ExtTreeMap.ext_getElem? fun l => ?_
      rw [ExtTreeMap.getElem?_modify, ExtTreeMap.getElem?_insert]
      split
      · next hl =>
        rw [h]
        rfl
      · rfl
    have hi := sum_insert μ t k (g v)
    rw [h, kept, Option.map_some, Option.getD_some] at hi
    rw [ht]
    exact Nat.add_right_cancel hi

theorem sum_foldl_insert {es : List (κ × α)} {t : ExtTreeMap κ α}
    (distinct : es.Pairwise fun a b => ¬ compare a.1 b.1 = .eq)
    (fresh : ∀ e ∈ es, t[e.1]? = none) :
    sum μ (es.foldl (fun t e => t.insert e.1 e.2) t) = sum μ t + (es.map fun e => μ e.2).sum := by
  induction es generalizing t with
  | nil => rfl
  | cons e es ih =>
    obtain ⟨he, hd⟩ := List.pairwise_cons.1 distinct
    have hf : ∀ x ∈ es, (t.insert e.1 e.2)[x.1]? = none := fun x hx => by
      rw [ExtTreeMap.getElem?_insert, if_neg (he x hx), fresh x (List.mem_cons_of_mem _ hx)]
    have hi := sum_insert μ t e.1 e.2
    rw [fresh e (List.mem_cons_self ..), Option.map_none, Option.getD_none] at hi
    rw [List.foldl_cons, ih hd hf, List.map_cons, List.sum_cons]
    omega

theorem sum_ofList {es : List (κ × α)}
    (distinct : es.Pairwise fun a b => ¬ compare a.1 b.1 = .eq) :
    sum μ (ExtTreeMap.ofList es) = (es.map fun e => μ e.2).sum := by
  rw [ExtTreeMap.ofList_eq_foldl]
  refine (sum_foldl_insert μ distinct fun e _ => ExtTreeMap.getElem?_empty).trans ?_
  rw [sum_empty, Nat.zero_add]

end MeshNet.MapSum
