import Mathlib.Tactic.Tauto
import MeshNet.Event.Effect

namespace MeshNet

namespace Groups

def Separates (g : Groups) (x y : NodeId) : Prop := ∃ a ∈ g, ∃ b ∈ g, a ≠ b ∧ x ∈ a ∧ y ∈ b

instance (g : Groups) (x y : NodeId) : Decidable (g.Separates x y) :=
  inferInstanceAs (Decidable (∃ a ∈ g, ∃ b ∈ g, _))

theorem separates_comm {g : Groups} {x y : NodeId} : g.Separates x y ↔ g.Separates y x := by
  constructor
  all_goals
    rintro ⟨a, ha, b, hb, hne, hx, hy⟩
    exact ⟨b, hb, a, ha, hne.symm, hy, hx⟩

theorem separates_cons {g : Groups} {group : List NodeId} {x y : NodeId}
    (apart : ∀ z ∈ group, z ∉ g.flatten) :
    Separates (group :: g) x y ↔ (x ∈ group ∧ y ∈ g.flatten) ∨ (y ∈ group ∧ x ∈ g.flatten) ∨
      g.Separates x y := by
  have ne {a : List NodeId} {z : NodeId} (ha : a ∈ g) (hz : z ∈ a) : group ≠ a := by
    rintro rfl
    exact apart z hz (List.mem_flatten_of_mem ha hz)
  constructor
  · rintro ⟨a, ha, b, hb, hne, hx, hy⟩
    rw [List.mem_cons] at ha hb
    rcases ha with rfl | ha
    · rcases hb with rfl | hb
      · exact absurd rfl hne
      · exact .inl ⟨hx, List.mem_flatten_of_mem hb hy⟩
    · rcases hb with rfl | hb
      · exact .inr (.inl ⟨hy, List.mem_flatten_of_mem ha hx⟩)
      · exact .inr (.inr ⟨a, ha, b, hb, hne, hx, hy⟩)
  · rintro (⟨hx, hy⟩ | ⟨hy, hx⟩ | ⟨a, ha, b, hb, hne, hx, hy⟩)
    · obtain ⟨b, hb, hy⟩ := List.mem_flatten.1 hy
      exact ⟨group, List.mem_cons_self, b, List.mem_cons_of_mem _ hb, ne hb hy, hx, hy⟩
    · obtain ⟨a, ha, hx⟩ := List.mem_flatten.1 hx
      exact ⟨a, List.mem_cons_of_mem _ ha, group, List.mem_cons_self, (ne ha hx).symm, hx, hy⟩
    · exact ⟨a, List.mem_cons_of_mem _ ha, b, List.mem_cons_of_mem _ hb, hne, hx, hy⟩

theorem mem_crossing_cons {g : Groups} {group : List NodeId} {x y : NodeId} :
    ⟨x, y⟩ ∈ crossing (group :: g) ↔ (x ∈ group ∧ y ∈ g.flatten) ∨ ⟨x, y⟩ ∈ g.crossing := by
  rw [crossing, List.mem_append]
  simp only [List.mem_flatMap, List.mem_map, Link.mk.injEq]
  constructor
  · rintro (⟨_, hx, _, hy, rfl, rfl⟩ | h)
    · exact .inl ⟨hx, hy⟩
    · exact .inr h
  · rintro (⟨hx, hy⟩ | h)
    · exact .inl ⟨x, hx, y, hy, rfl, rfl⟩
    · exact .inr h

theorem mem_crossing {g : Groups} (nodup : g.flatten.Nodup) {x y : NodeId} :
    (⟨x, y⟩ ∈ g.crossing ∨ ⟨y, x⟩ ∈ g.crossing) ↔ g.Separates x y := by
  induction g with
  | nil => simp [crossing, Separates]
  | cons group g ih =>
    rw [List.flatten_cons, List.nodup_append] at nodup
    obtain ⟨-, rest, apart⟩ := nodup
    rw [separates_cons fun z hz hr => apart z hz z hr rfl, ← ih rest, mem_crossing_cons,
      mem_crossing_cons]
    tauto

theorem not_separates_self {g : Groups} (nodup : g.flatten.Nodup) (x : NodeId) :
    ¬ g.Separates x x := by
  induction g with
  | nil => simp [Separates]
  | cons group g ih =>
    rw [List.flatten_cons, List.nodup_append] at nodup
    obtain ⟨-, rest, apart⟩ := nodup
    have apart (z : NodeId) (hz : z ∈ group) : z ∉ g.flatten := fun hr => apart z hz z hr rfl
    rw [separates_cons apart]
    rintro (⟨hx, hr⟩ | ⟨hx, hr⟩ | hs)
    · exact apart x hx hr
    · exact apart x hx hr
    · exact ih rest hs

end Groups

namespace Cuts

theorem active_eq_false_iff {s : Cuts} {l : Link} : s.active l = false ↔ l ∈ s.links := by
  rw [← Bool.not_eq_true, active_iff, Classical.not_not]

theorem not_mem_empty (l : Link) : l ∉ (∅ : Cuts).links := Std.ExtTreeSet.not_mem_empty

theorem mem_mendBoth {s : Cuts} {k l : Link} :
    k ∈ (s.mendBoth l).links ↔ k ≠ l.reverse ∧ k ≠ l ∧ k ∈ s.links := by
  rw [mendBoth, mem_mend, mem_mend]

theorem mem_cutAll {s : Cuts} {k : Link} {links : List Link} :
    k ∈ (s.cutAll links).links ↔ (k ∈ links ∨ k.reverse ∈ links) ∨ k ∈ s.links := by
  induction links generalizing s with
  | nil => simp [cutAll]
  | cons l links ih =>
    have hr : k = l.reverse ↔ k.reverse = l := ⟨fun h => by rw [h]; rfl, fun h => by rw [← h]; rfl⟩
    change k ∈ ((s.cutBoth l).cutAll links).links ↔ _
    rw [ih, mem_cutBoth, hr, List.mem_cons, List.mem_cons]
    tauto

end Cuts

namespace Event

def Concerns (x y : NodeId) : Event → Prop
  | drop l | restore l => l = ⟨x, y⟩ ∨ l = ⟨y, x⟩
  | partition groups => groups.Separates x y
  | start _ | stop _ _ | crash _ | restart _ | degrade _ _ _ | heal => False

instance (x y : NodeId) : DecidablePred (Concerns x y)
  | drop _ | restore _ => inferInstanceAs (Decidable (_ ∨ _))
  | partition groups => inferInstanceAs (Decidable (groups.Separates x y))
  | start _ | stop _ _ | crash _ | restart _ | degrade _ _ _ | heal => inferInstanceAs (Decidable False)

def isRestore : Event → Bool
  | restore _ => true
  | _ => false

def isHeal : Event → Bool
  | heal => true
  | _ => false

def sinceHeal (events : List Event) : List Event := events.reverse.takeWhile (!·.isHeal)

def latest? (x y : NodeId) (events : List Event) : Option Event :=
  (sinceHeal events).find? (·.Concerns x y)

def rewire (s : Cuts) : Event → Cuts
  | drop l => s.cutBoth l
  | restore l => s.mendBoth l
  | partition groups => s.cutAll groups.crossing
  | heal => ∅
  | start _ | stop _ _ | crash _ | restart _ | degrade _ _ _ => s

theorem concerns_comm {e : Event} {x y : NodeId} : e.Concerns x y ↔ e.Concerns y x := by
  cases e with
  | drop l | restore l => exact or_comm
  | partition groups => exact Groups.separates_comm
  | start id | stop id graceful | crash id | restart id | degrade l latency loss | heal => rfl

theorem sinceHeal_concat (events : List Event) (e : Event) :
    sinceHeal (events ++ [e]) = if e.isHeal then [] else e :: sinceHeal events := by
  rw [sinceHeal, List.reverse_concat, List.takeWhile_cons]
  cases e.isHeal <;> rfl

theorem mem_of_mem_sinceHeal {e : Event} {events : List Event} (h : e ∈ sinceHeal events) :
    e ∈ events :=
  List.mem_reverse.1 ((List.takeWhile_sublist _).subset h)

theorem latest?_concat (x y : NodeId) (events : List Event) (e : Event) :
    latest? x y (events ++ [e]) =
      if e.isHeal then none else if e.Concerns x y then some e else latest? x y events := by
  rw [latest?, sinceHeal_concat]
  split
  · rfl
  · rw [List.find?_cons, latest?]
    split <;> simp_all

theorem latest?_comm (x y : NodeId) (events : List Event) :
    latest? x y events = latest? y x events := by
  have h : (fun e : Event => decide (e.Concerns x y)) = fun e => decide (e.Concerns y x) :=
    funext fun e => decide_eq_decide.2 concerns_comm
  rw [latest?, latest?, h]

theorem mem_rewire {e : Event} (valid : ∀ g, e = .partition g → g.Valid) {s : Cuts} {x y : NodeId} :
    ⟨x, y⟩ ∈ (e.rewire s).links ↔ (e.Concerns x y ∧ e.isRestore = false) ∨
      (¬ e.Concerns x y ∧ e.isHeal = false ∧ ⟨x, y⟩ ∈ s.links) := by
  have hr (l : Link) : (⟨x, y⟩ : Link) = l.reverse ↔ l = ⟨y, x⟩ :=
    ⟨fun h => congrArg Link.reverse h.symm, fun h => by rw [h]; rfl⟩
  cases e with
  | drop l =>
    rw [rewire, Cuts.mem_cutBoth, hr, eq_comm (b := l)]
    simp only [Concerns, isHeal, isRestore]
    tauto
  | restore l =>
    rw [rewire, Cuts.mem_mendBoth, Ne, hr, Ne, eq_comm (b := l)]
    simp only [Concerns, isHeal, isRestore]
    tauto
  | partition groups =>
    have hc := Groups.mem_crossing (valid groups rfl).2.2 (x := x) (y := y)
    rw [rewire, Cuts.mem_cutAll, Link.reverse, hc]
    simp only [Concerns, isHeal, isRestore]
    tauto
  | heal => simp [rewire, Concerns, isHeal, Cuts.not_mem_empty]
  | start id | stop id graceful | crash id | restart id | degrade l latency loss =>
    simp [rewire, Concerns, isHeal]

structure Explains (events : List Event) (s : Cuts) : Prop where
  valid : ∀ g, .partition g ∈ events → g.Valid
  mem_iff : ∀ x y, ⟨x, y⟩ ∈ s.links ↔ ∃ e, latest? x y events = some e ∧ e.isRestore = false

namespace Explains

variable {events : List Event} {s : Cuts}

theorem nil : Explains [] ∅ where
  valid := nofun
  mem_iff x y := by simp [latest?, sinceHeal, Cuts.not_mem_empty]

theorem concat (h : Explains events s) {e : Event} (valid : ∀ g, e = .partition g → g.Valid) :
    Explains (events ++ [e]) (e.rewire s) where
  valid g hg := by
    rw [List.mem_append, List.mem_singleton] at hg
    rcases hg with hg | hg
    · exact h.valid g hg
    · exact valid g hg.symm
  mem_iff x y := by
    rw [mem_rewire valid, latest?_concat, h.mem_iff]
    by_cases hc : e.Concerns x y
    · have hh : e.isHeal = false := by
        cases e with
        | heal => exact hc.elim
        | _ => rfl
      simp [hc, hh]
    · cases hh : e.isHeal <;> simp [hc]

theorem active_iff (h : Explains events s) {x y : NodeId} :
    s.active ⟨x, y⟩ = false ↔ ∃ e, latest? x y events = some e ∧ e.isRestore = false := by
  rw [Cuts.active_eq_false_iff, h.mem_iff]

theorem active_reverse (h : Explains events s) (l : Link) : s.active l.reverse = s.active l := by
  rw [Bool.eq_iff_iff, ← not_iff_not, Bool.not_eq_true, Bool.not_eq_true, h.active_iff,
    Link.reverse, h.active_iff, latest?_comm]

theorem latest?_self (h : Explains events s) {x : NodeId} (hx : s.active ⟨x, x⟩ = false) :
    latest? x x events = some (.drop ⟨x, x⟩) := by
  obtain ⟨e, he, hr⟩ := h.active_iff.1 hx
  have concerns : e.Concerns x x := by simpa using List.find?_some he
  have mem : e ∈ events := mem_of_mem_sinceHeal (List.mem_of_find?_eq_some he)
  cases e with
  | drop l =>
    rw [Concerns, or_self] at concerns
    rw [he, concerns]
  | restore l => cases hr
  | partition groups => exact absurd concerns (Groups.not_separates_self (h.valid _ mem).2.2 x)
  | start id | stop id graceful | crash id | restart id | degrade l latency loss | heal =>
    exact concerns.elim

end Explains

end Event

end MeshNet
