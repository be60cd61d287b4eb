import MeshNet.Proofs.Event.Outcome
import MeshNet.Proofs.Network.Offer
import MeshNet.Proofs.Queue.Roll

namespace MeshNet

inductive NetworkOp where
  | enqueue (m : Message) (now : Time)
  | drain (now : Time)
  | clear
  | drops (l : Link)
  | configure (s : Setting)
  | cut (l : Link)
  | mend (l : Link)
  | mendAll
  | resetTraffic

inductive NetworkReply where
  | enqueued (time : Option Time)
  | drained (messages : List (Time × Message))
  | dropped (lost : Bool)
  | configured (error : Option ConditionError)
  | done
deriving DecidableEq

def NetworkReply.messages : NetworkReply → List (Time × Message)
  | drained messages => messages
  | enqueued _ | dropped _ | configured _ | done => []

namespace Network

def step (n : Network) : NetworkOp → NetworkReply × Network
  | .enqueue m now => (.enqueued (n.enqueue m now).1, (n.enqueue m now).2)
  | .drain now => (.drained (n.drain now).1, (n.drain now).2)
  | .clear => (.done, n.clear)
  | .drops l => (.dropped (n.drops l).1, (n.drops l).2)
  | .configure s => (.configured (n.configure s).1, (n.configure s).2)
  | .cut l => (.done, n.cut l)
  | .mend l => (.done, n.mend l)
  | .mendAll => (.done, n.mendAll)
  | .resetTraffic => (.done, n.resetTraffic)

def steps : List NetworkOp → Network → List NetworkReply × Network
  | [], n => ([], n)
  | op :: ops, n =>
    ((n.step op).1 :: (steps ops (n.step op).2).1, (steps ops (n.step op).2).2)

end Network

structure Post where
  roll : Roll Message := {}
  drained : List (Waiting Message) := []
  discarded : List (Waiting Message) := []

namespace Post

def all (p : Post) : List (Waiting Message) := p.drained ++ p.discarded ++ p.roll.waiting

/-- Only the outcome of an offer is taken over from the network. -/
def step (p : Post) : NetworkOp × NetworkReply → NetworkReply × Post
  | (.enqueue m _, .enqueued (some time)) =>
    (.enqueued (some time), { p with roll := p.roll.add time m })
  | (.drain now, _) =>
    (.drained ((p.roll.due now).map (·.entry)),
      { p with roll := p.roll.after now, drained := p.drained ++ p.roll.due now })
  | (.clear, reply) =>
    (reply, { p with roll := p.roll.clear, discarded := p.discarded ++ p.roll.waiting })
  | (_, reply) => (reply, p)

def steps : List (NetworkOp × NetworkReply) → Post → List NetworkReply × Post
  | [], p => ([], p)
  | op :: ops, p =>
    ((p.step op).1 :: (steps ops (p.step op).2).1, (steps ops (p.step op).2).2)

def admitted? : NetworkOp × NetworkReply → Option (Time × Message)
  | (.enqueue m _, .enqueued time) => time.map (·, m)
  | _ => none

theorem filterMap_admitted?_cons (op : NetworkOp × NetworkReply)
    (ops : List (NetworkOp × NetworkReply)) : (op :: ops).filterMap admitted? =
      (admitted? op).toList ++ ops.filterMap admitted? := by
  rw [List.filterMap_cons]
  cases admitted? op <;> rfl

theorem step_agree {n : Network} {p : Post} (h : n.inFlight.roll = p.roll) (op : NetworkOp) :
    (p.step (op, (n.step op).1)).1 = (n.step op).1 ∧
      (n.step op).2.inFlight.roll = (p.step (op, (n.step op).1)).2.roll := by
  cases op with
  | enqueue m now =>
    obtain ⟨ht, hq, -⟩ | ⟨latency, ht, hq, -⟩ := n.enqueue_cases m now
    · rw [Network.step, hq, ht]
      exact ⟨rfl, h⟩
    · rw [Network.step, hq, ht, Timeline.roll_insert, h]
      exact ⟨rfl, rfl⟩
  | drain now =>
    rw [Network.step, Network.drain, Timeline.ready_eq_due, h]
    refine ⟨rfl, ?_⟩
    rw [Timeline.roll_after, h]
    rfl
  | clear =>
    refine ⟨rfl, ?_⟩
    rw [Network.step, Network.clear, Timeline.roll_clear, h]
    rfl
  | drops l =>
    rw [Network.step, (n.drops_frame l).1]
    exact ⟨rfl, h⟩
  | configure s =>
    rw [Network.step, (n.configure_frame s).1]
    exact ⟨rfl, h⟩
  | cut l => exact ⟨rfl, h⟩
  | mend l => exact ⟨rfl, h⟩
  | mendAll => exact ⟨rfl, h⟩
  | resetTraffic => exact ⟨rfl, h⟩

theorem steps_agree {n : Network} {p : Post} (h : n.inFlight.roll = p.roll)
    (ops : List NetworkOp) :
    (steps (ops.zip (n.steps ops).1) p).1 = (n.steps ops).1 ∧
      (n.steps ops).2.inFlight.roll = (steps (ops.zip (n.steps ops).1) p).2.roll := by
  induction ops generalizing n p with
  | nil => exact ⟨rfl, h⟩
  | cons op ops ih =>
    obtain ⟨hr, hs⟩ := step_agree h op
    obtain ⟨hrs, hss⟩ := ih hs
    rw [Network.steps, List.zip_cons_cons, steps, hr, hrs]
    exact ⟨rfl, hss⟩

theorem step_drained {n : Network} {p : Post} (h : n.inFlight.roll = p.roll) (op : NetworkOp) :
    (p.step (op, (n.step op).1)).2.drained.map (·.entry) =
      p.drained.map (·.entry) ++ (n.step op).1.messages := by
  cases op with
  | enqueue m now =>
    rw [Network.step, NetworkReply.messages, List.append_nil]
    cases (n.enqueue m now).1 <;> rfl
  | drain now =>
    rw [Network.step, Network.drain, Timeline.ready_eq_due, h]
    exact List.map_append
  | clear | drops l | configure s | cut l | mend l | mendAll | resetTraffic =>
    exact (List.append_nil _).symm

theorem steps_drained {n : Network} {p : Post} (h : n.inFlight.roll = p.roll)
    (ops : List NetworkOp) :
    (steps (ops.zip (n.steps ops).1) p).2.drained.map (·.entry) =
      p.drained.map (·.entry) ++ (n.steps ops).1.flatMap (·.messages) := by
  induction ops generalizing n p with
  | nil => exact (List.append_nil _).symm
  | cons op ops ih =>
    have hs := ih (step_agree h op).2
    rw [step_drained h, List.append_assoc] at hs
    exact hs

theorem step_all (p : Post) (op : NetworkOp × NetworkReply) :
    (p.step op).2.all.Perm (p.all ++ Waiting.enumerate p.roll.arrivals (admitted? op).toList) ∧
      (p.step op).2.roll.arrivals = p.roll.arrivals + (admitted? op).toList.length := by
  obtain ⟨op, reply⟩ := op
  have idle : p.all.Perm (p.all ++ Waiting.enumerate p.roll.arrivals []) := by
    rw [Waiting.enumerate, List.append_nil]
  cases op with
  | enqueue m now =>
    cases reply with
    | enqueued time =>
      cases time with
      | none => exact ⟨idle, rfl⟩
      | some time =>
        refine ⟨?_, rfl⟩
        simp only [step, all, Roll.add, admitted?, Option.map_some, Option.toList,
          Waiting.enumerate, List.append_assoc]
        exact .refl _
    | drained messages | dropped lost | configured error | done => exact ⟨idle, rfl⟩
  | drain now =>
    refine ⟨?_, rfl⟩
    have hr := p.roll.due_append_after_perm now
    simp only [step, all, admitted?, Option.toList, Waiting.enumerate, List.append_nil]
    rw [← Multiset.coe_eq_coe] at hr ⊢
    simp only [← Multiset.coe_add] at hr ⊢
    rw [← hr]
    abel
  | clear =>
    refine ⟨?_, rfl⟩
    simp only [step, all, Roll.clear, admitted?, Option.toList, Waiting.enumerate,
      List.append_assoc, List.append_nil]
    exact .refl _
  | drops l | configure s | cut l | mend l | mendAll | resetTraffic => exact ⟨idle, rfl⟩

theorem steps_all (p : Post) (ops : List (NetworkOp × NetworkReply)) :
    (steps ops p).2.all.Perm
      (p.all ++ Waiting.enumerate p.roll.arrivals (ops.filterMap admitted?)) := by
  induction ops generalizing p with
  | nil =>
    rw [List.filterMap_nil, Waiting.enumerate, List.append_nil]
    exact .refl _
  | cons op ops ih =>
    obtain ⟨hv, ha⟩ := p.step_all op
    have hs := ih (p.step op).2
    rw [ha] at hs
    rw [filterMap_admitted?_cons, Waiting.enumerate_append, ← List.append_assoc]
    exact hs.trans (hv.append_right _)

end Post

namespace Network

theorem steps_refine_post (c : Conditions) (ops : List NetworkOp) :
    (∀ replies n, steps ops { conditions := c } = (replies, n) →
      ∃ p, Post.steps (ops.zip replies) {} = (replies, p) ∧
        n.inFlight.roll = p.roll ∧
        n.inFlight.queue = p.roll.waiting.mergeSort (·.time ≤ ·.time) ∧
        n.inFlight.next? = p.roll.next? ∧ n.inFlight.size = p.roll.waiting.length ∧
        p.drained.map (·.entry) = replies.flatMap (·.messages) ∧
        p.all.Perm (Waiting.enumerate 0 ((ops.zip replies).filterMap Post.admitted?)) ∧
        p.all.Pairwise (·.number ≠ ·.number)) ∧
    (∀ (n : Network) (t u : Time), t ≤ u →
      (n.drain t).1 ++ ((n.drain t).2.drain u).1 = (n.drain u).1 ∧
        ((n.drain t).2.drain u).2 = (n.drain u).2) ∧
    ∀ {φ : Type} [Firmware φ] (e : Event) (now : Time) (mesh mesh' : Mesh φ)
      (verdict : Except EventError Unit),
      ((e.perform now).run.run mesh : Checked _) = .ok (verdict, mesh') →
        mesh'.network.inFlight = mesh.network.inFlight := by
  refine ⟨fun replies n h => ?_, fun n t u h => ⟨?_, ?_⟩, fun e now mesh mesh' verdict h => ?_⟩
  · have start : ({ conditions := c } : Network).inFlight.roll = ({} : Post).roll :=
      Timeline.roll_empty
    have hr := Post.steps_agree start ops
    have hd := Post.steps_drained start ops
    have ha := Post.steps_all {} (ops.zip replies)
    rw [h] at hr hd
    generalize hp : Post.steps (ops.zip replies) {} = r at hr hd ha
    obtain ⟨replies', p⟩ := r
    obtain ⟨rfl, hq⟩ := hr
    obtain ⟨hqueue, hnext, hsize⟩ := Timeline.spec_of_roll_eq hq
    exact ⟨p, rfl, hq, hqueue, hnext, hsize, hd, ha, Waiting.distinct_of_perm_enumerate ha⟩
  · rw [drain, drain, drain, ← List.map_append, Timeline.ready_append_ready_after _ h]
  · rw [drain, drain, drain, Timeline.after_after _ h]
  · exact (Event.perform_frame h).1

theorem steps_refine_post_cut_and_clear :
    let l : Link := ⟨⟨1⟩, ⟨2⟩⟩
    let c : Conditions :=
      { defaultLatency := ⟨.fixed 20, LatencyModel.valid_fixed 20⟩, source := .seeded 1 }
    let ops : List NetworkOp :=
      [.enqueue ⟨l, [7]⟩ 5, .enqueue ⟨l.reverse, [8]⟩ 0, .cut l, .enqueue ⟨l, [9]⟩ 0, .drain 20,
        .clear, .drain 30]
    ∃ replies n p, steps ops { conditions := c } = (replies, n) ∧
      replies = [.enqueued (some 25), .enqueued (some 20), .done, .enqueued none,
        .drained [(20, ⟨l.reverse, [8]⟩)], .done, .drained []] ∧
      Post.steps (ops.zip replies) {} = (replies, p) ∧
      (({ conditions := c } : Network).drain 3).1 ++
        ((({ conditions := c } : Network).drain 3).2.drain 4).1 =
          (({ conditions := c } : Network).drain 4).1 := by
  intro l c ops
  obtain ⟨hs, hd, -⟩ := steps_refine_post c ops
  obtain ⟨p, hp, -⟩ := hs _ _ rfl
  exact ⟨_, _, p, rfl, by decide +kernel, hp, (hd _ 3 4 (by decide)).1⟩

end Network

end MeshNet
