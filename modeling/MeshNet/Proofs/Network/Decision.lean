import MeshNet.Proofs.Network.Insertion
import MeshNet.Proofs.Network.Latency

namespace MeshNet

inductive PairedCall where
  | offer (m : Message) (now : Time)
  | both (op : NetworkOp)

namespace PairedCall

def asks : PairedCall → NetworkOp
  | offer m _ => .drops m.link
  | both op => op

def offers : PairedCall → NetworkOp
  | offer m now => .enqueue m now
  | both op => op

end PairedCall

def NetworkReply.lost? : NetworkReply → Option Bool
  | enqueued time => some time.isNone
  | dropped lost => some lost
  | drained _ | configured _ | done => none

namespace Conditions

theorem sampleFate_fst_eq_none_iff {c : Conditions} {cuts : Cuts} {l : Link} :
    (c.sampleFate cuts l).1 = none ↔ (c.sampleDrop cuts l).1 = true := by
  rw [sampleFate]
  obtain ⟨_ | _, rest⟩ := c.sampleDrop cuts l
  · simp
  · simp

theorem sampleFate_of_dropped {c : Conditions} {cuts : Cuts} {l : Link}
    (dropped : (c.sampleDrop cuts l).1 = true) :
    c.sampleFate cuts l = (none, (c.sampleDrop cuts l).2) := by
  rw [sampleFate]
  revert dropped
  obtain ⟨_ | _, rest⟩ := c.sampleDrop cuts l
  · intro dropped
    cases dropped
  · intro _
    rfl

theorem sampleFate_of_fixed {c : Conditions} {cuts : Cuts} {l : Link}
    (fixed : (c.latencyFor l).val.min = (c.latencyFor l).val.max) :
    (c.sampleFate cuts l).2 = (c.sampleDrop cuts l).2 := by
  have model := c.latencyFor_sampleDrop cuts l l
  rw [sampleFate]
  revert model
  obtain ⟨_ | _, rest⟩ := c.sampleDrop cuts l
  · intro model
    have fixed : (rest.latencyFor l).val.min = (rest.latencyFor l).val.max := by
      rwa [model]
    exact congrArg Prod.snd (sampleLatency_of_fixed fixed)
  · intro _
    rfl

end Conditions

namespace Network

theorem enqueue_eq_none_iff {n : Network} {m : Message} {now : Time} :
    (n.enqueue m now).1 = none ↔ (n.drops m.link).1 = true := by
  rw [enqueue_eq, drops_eq, ← Conditions.sampleFate_fst_eq_none_iff]
  obtain ⟨_ | latency, rest⟩ := n.conditions.sampleFate n.cuts m.link
  · simp [book]
  · simp [book]

theorem isNone_enqueue (n : Network) (m : Message) (now : Time) :
    (n.enqueue m now).1.isNone = (n.drops m.link).1 := by
  rw [Bool.eq_iff_iff, Option.isNone_iff_eq_none, enqueue_eq_none_iff]

theorem enqueue_of_dropped {n : Network} {m : Message} (now : Time)
    (dropped : (n.drops m.link).1 = true) :
    n.enqueue m now =
      (none, { (n.drops m.link).2 with traffic := n.traffic.update m.link .drop }) := by
  rw [drops_eq] at dropped
  rw [enqueue_eq, Conditions.sampleFate_of_dropped dropped, drops_eq, book]

theorem drops_of_cut {n : Network} {l : Link} (cut : n.cuts.active l = false) :
    n.drops l = (true, n) := by
  rw [drops, cut]
  rfl

structure InStep (asked offered : Network) : Prop where
  conditions : asked.conditions = offered.conditions
  cuts : asked.cuts = offered.cuts

def OffersAtFixedLatency : List PairedCall → Network → Prop
  | [], _ => True
  | .both op :: calls, n => OffersAtFixedLatency calls (n.step op).2
  | .offer m now :: calls, n =>
    (n.conditions.latencyFor m.link).val.min = (n.conditions.latencyFor m.link).val.max ∧
      OffersAtFixedLatency calls (n.step (.enqueue m now)).2

instance decidableOffersAtFixedLatency :
    (calls : List PairedCall) → (n : Network) → Decidable (OffersAtFixedLatency calls n)
  | [], _ => inferInstanceAs (Decidable True)
  | .both op :: calls, n => decidableOffersAtFixedLatency calls (n.step op).2
  | .offer m now :: calls, n =>
    have := decidableOffersAtFixedLatency calls (n.step (.enqueue m now)).2
    inferInstanceAs (Decidable (_ ∧ _))

namespace InStep

variable {asked offered : Network}

theorem offer (h : InStep asked offered) {m : Message} (now : Time)
    (fixed : (offered.conditions.latencyFor m.link).val.min =
      (offered.conditions.latencyFor m.link).val.max) :
    (asked.drops m.link).1 = (offered.enqueue m now).1.isNone ∧
      InStep (asked.drops m.link).2 (offered.enqueue m now).2 := by
  refine ⟨?_, ?_, ?_⟩
  · rw [isNone_enqueue, drops_eq, drops_eq, h.conditions, h.cuts]
  · rw [enqueue_eq, conditions_book, Conditions.sampleFate_of_fixed fixed, drops_eq, h.conditions,
      h.cuts]
  · rw [cuts_drops, cuts_enqueue, h.cuts]

theorem both (h : InStep asked offered) (op : NetworkOp) :
    (asked.step op).1.lost? = (offered.step op).1.lost? ∧
      InStep (asked.step op).2 (offered.step op).2 := by
  cases op with
  | enqueue m now =>
    refine ⟨congrArg some ?_, ?_, ?_⟩
    · rw [isNone_enqueue, isNone_enqueue, drops_eq, drops_eq, h.conditions, h.cuts]
    · rw [step, step, enqueue_eq, enqueue_eq, conditions_book, conditions_book, h.conditions,
        h.cuts]
    · rw [step, step, cuts_enqueue, cuts_enqueue, h.cuts]
  | drops l =>
    refine ⟨congrArg some ?_, ?_, ?_⟩
    · rw [drops_eq, drops_eq, h.conditions, h.cuts]
    · rw [step, step, drops_eq, drops_eq, h.conditions, h.cuts]
    · rw [step, step, cuts_drops, cuts_drops, h.cuts]
  | configure s =>
    refine ⟨rfl, ?_, ?_⟩
    · rw [step, step, configure, configure, reconfigure, reconfigure, h.conditions]
      cases s.apply offered.conditions with
      | error error => exact h.conditions
      | ok c => rfl
    · rw [step, step, cuts_configure, cuts_configure, h.cuts]
  | cut l => exact ⟨rfl, h.conditions, congrArg (·.cut l) h.cuts⟩
  | mend l => exact ⟨rfl, h.conditions, congrArg (·.mend l) h.cuts⟩
  | mendAll => exact ⟨rfl, h.conditions, rfl⟩
  | drain now | clear | resetTraffic => exact ⟨rfl, h.conditions, h.cuts⟩

theorem call (h : InStep asked offered) {call : PairedCall} {calls : List PairedCall}
    (fixed : OffersAtFixedLatency (call :: calls) offered) :
    (asked.step call.asks).1.lost? = (offered.step call.offers).1.lost? ∧
      InStep (asked.step call.asks).2 (offered.step call.offers).2 ∧
      OffersAtFixedLatency calls (offered.step call.offers).2 := by
  cases call with
  | offer m now =>
    obtain ⟨agreed, next⟩ := h.offer now fixed.1
    exact ⟨congrArg some agreed, next, fixed.2⟩
  | both op =>
    obtain ⟨agreed, next⟩ := h.both op
    exact ⟨agreed, next, fixed⟩

theorem calls (h : InStep asked offered) {calls : List PairedCall}
    (fixed : OffersAtFixedLatency calls offered) :
    (steps (calls.map (·.asks)) asked).1.map (·.lost?) =
        (steps (calls.map (·.offers)) offered).1.map (·.lost?) ∧
      InStep (steps (calls.map (·.asks)) asked).2 (steps (calls.map (·.offers)) offered).2 := by
  induction calls generalizing asked offered with
  | nil => exact ⟨rfl, h⟩
  | cons call calls ih =>
    obtain ⟨agreed, next, fixed⟩ := h.call fixed
    obtain ⟨rest, last⟩ := ih next fixed
    exact ⟨congrArg₂ List.cons agreed rest, last⟩

end InStep

theorem enqueue_follows_drops :
    (∀ (n : Network) (m : Message) (now : Time),
      ((n.enqueue m now).1 = none ↔ (n.drops m.link).1 = true) ∧
      ((n.drops m.link).1 = true →
        (n.enqueue m now).2 =
            { (n.drops m.link).2 with traffic := n.traffic.update m.link .drop } ∧
          (n.drops m.link).2.traffic = n.traffic ∧
          (n.drops m.link).2.inFlight = n.inFlight ∧ (n.drops m.link).2.cuts = n.cuts) ∧
      (n.cuts.active m.link = false →
        n.drops m.link = (true, n) ∧
          n.enqueue m now = (none, { n with traffic := n.traffic.update m.link .drop }))) ∧
    ∀ (asked offered : Network) (calls : List PairedCall), InStep asked offered →
      OffersAtFixedLatency calls offered →
      (steps (calls.map (·.asks)) asked).1.map (·.lost?) =
          (steps (calls.map (·.offers)) offered).1.map (·.lost?) ∧
        InStep (steps (calls.map (·.asks)) asked).2 (steps (calls.map (·.offers)) offered).2 := by
  refine ⟨fun n m now => ⟨enqueue_eq_none_iff, fun dropped => ⟨?_, ?_⟩, fun cut => ⟨?_, ?_⟩⟩, ?_⟩
  · rw [enqueue_of_dropped now dropped]
  · exact ⟨(n.drops_frame m.link).2, (n.drops_frame m.link).1, n.cuts_drops m.link⟩
  · exact drops_of_cut cut
  · rw [enqueue_of_dropped now (by rw [drops_of_cut cut]), drops_of_cut cut]
  · intro asked offered calls together fixed
    exact together.calls fixed

theorem enqueue_follows_drops_through_cut_burst :
    let l : Link := ⟨⟨1⟩, ⟨2⟩⟩
    let m : Message := ⟨l, [7]⟩
    let asked : Network :=
      { conditions :=
          { defaultLatency := ⟨.fixed 20, LatencyModel.valid_fixed 20⟩, source := .seeded 5 } }
    let offered : Network := { asked with inFlight := (∅ : Timeline Message).insert 5 m }
    let lossy : LossModel := { probability := 0.5, burstMode := true, burstLength := 3 }
    let calls : List PairedCall :=
      [.both (.configure (.loss l lossy)), .offer m 0, .both (.cut l), .offer m 1, .both (.drain 9),
        .both (.mend l), .offer m 2, .both (.configure (.latency l (.fixed 30))), .offer m 3,
        .offer m 4, .offer ⟨l.reverse, [8]⟩ 4]
    let answers := [none, some true, none, some true, none, none, some true, none, some true,
      some false, some false]
    ((asked.cut l).enqueue m 0).1 = none ∧ ((asked.cut l).drops l).2 = asked.cut l ∧
      OffersAtFixedLatency calls offered ∧
      (steps (calls.map (·.asks)) asked).1.map (·.lost?) = answers ∧
      (steps (calls.map (·.offers)) offered).1.map (·.lost?) = answers := by
  intro l m asked offered lossy calls answers
  have cut : (asked.cut l).cuts.active l = false := by decide
  have fixed : OffersAtFixedLatency calls offered := by decide +kernel
  have answered : (steps (calls.map (·.asks)) asked).1.map (·.lost?) = answers := by
    decide +kernel
  obtain ⟨same, -⟩ := enqueue_follows_drops.2 asked offered calls ⟨rfl, rfl⟩ fixed
  have inactive := (enqueue_follows_drops.1 (asked.cut l) m 0).2.2 cut
  refine ⟨?_, ?_, fixed, answered, same ▸ answered⟩
  · rw [inactive.2]
  · exact congrArg Prod.snd inactive.1

end Network

end MeshNet
