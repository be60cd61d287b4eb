import MeshNet.Proofs.Conservation.Balance
import MeshNet.Proofs.Conservation.Mail

namespace MeshNet

structure Exchange where
  handed : List Message
  undeliverable : List Message
  offered : List (Message × Option Time)

namespace Exchange

def flushed (x : Exchange) : List Message := x.offered.map (·.1)

def taken (x : Exchange) : List (Time × Message) := Network.taken x.offered

def report (x : Exchange) : UpdateReport where
  delivered := x.handed.length
  undeliverable := x.undeliverable.length
  sent := x.offered.length
  admitted := x.taken.length

def mail (x : Exchange) (c : MailCount) : Nat :=
  (x.flushed.map fun m => c.sending m.payload).sum +
    (x.handed.map fun m => c.receiving m.payload).sum

theorem sum_mail (xs : List Exchange) (c : MailCount) :
    (xs.map (·.mail c)).sum =
      ((xs.flatMap (·.flushed)).map fun m => c.sending m.payload).sum +
        ((xs.flatMap (·.handed)).map fun m => c.receiving m.payload).sum := by
  induction xs with
  | nil => rfl
  | cons x xs ih =>
    rw [List.map_cons, List.sum_cons, ih, mail]
    simp only [List.flatMap_cons, List.map_append, List.sum_append]
    omega

end Exchange

namespace Mesh

variable {φ : Type} [Firmware φ]

def exchange (mesh : Mesh φ) (now : Time) : Checked Exchange := do
  let arrived := (mesh.network.drain now).1.map (·.2)
  let (_, fleet) ← work mesh.fleet arrived mesh.network.cuts now
  let times := ((mesh.network.drain now).2.enqueueAll now fleet.unsent).1
  return {
    handed := arrived.filter fun m => mesh.fleet.runs m.link.target
    undeliverable := arrived.filter fun m => !mesh.fleet.runs m.link.target
    offered := fleet.unsent.zip times }

theorem work_eq_ok {fleet fleet' : Fleet φ} {arrived : List Message} {cuts : Cuts} {now : Time}
    {reached : List Bool} (h : work fleet arrived cuts now = .ok (reached, fleet')) :
    ∃ f g, Fleet.deliverAll now arrived (fleet.observe now) = .ok (reached, f) ∧
      f.refreshAll now cuts = .ok g ∧ g.tickAll now = .ok fleet' := by
  obtain ⟨⟨reached', f⟩, hd, h⟩ := Checked.bind_eq_ok.1 h
  obtain ⟨g, hr, h⟩ := Checked.bind_eq_ok.1 h
  obtain ⟨k, ht, h⟩ := Checked.bind_eq_ok.1 h
  cases h
  exact ⟨f, g, hd, hr, ht⟩

theorem update_eq_ok {mesh mesh' : Mesh φ} {now : Time} {report : UpdateReport}
    (h : mesh.update now = .ok (report, mesh')) :
    ∃ reached fleet,
      work mesh.fleet ((mesh.network.drain now).1.map (·.2)) mesh.network.cuts now =
        .ok (reached, fleet) ∧
      report = {
        delivered := reached.count true
        undeliverable := reached.count false
        sent := fleet.unsent.length
        admitted := ((mesh.network.drain now).2.enqueueAll now fleet.unsent).1.countP
          Option.isSome } ∧
      mesh' = {
        fleet := fleet.map .flush
        network := ((mesh.network.drain now).2.enqueueAll now fleet.unsent).2 } := by
  obtain ⟨⟨reached, fleet⟩, hw, h⟩ := Checked.bind_eq_ok.1 h
  cases h
  exact ⟨reached, fleet, hw, rfl, rfl⟩

theorem work_spec {fleet fleet' : Fleet φ} {arrived : List Message} {cuts : Cuts} {now : Time}
    {reached : List Bool} (h : work fleet arrived cuts now = .ok (reached, fleet')) :
    (reached = arrived.map fun m => fleet.runs m.link.target) ∧
      ∀ c : MailCount, fleet'.mail c = fleet.mail c +
        ((arrived.filter fun m => fleet.runs m.link.target).map fun m =>
          c.receiving m.payload).sum := by
  obtain ⟨f, g, hd, hr, ht⟩ := work_eq_ok h
  refine ⟨Fleet.reached_deliverAll (f := fleet.observe now) hd, fun c => ?_⟩
  rw [Fleet.mail_tickAll ht, Fleet.mail_refreshAll hr, Fleet.mail_deliverAll hd]
  rfl

theorem count_reached (ms : List Message) (runs : Message → Bool) :
    (ms.map runs).count true = (ms.filter runs).length ∧
      (ms.map runs).count false = (ms.filter fun m => !runs m).length := by
  induction ms with
  | nil => exact ⟨rfl, rfl⟩
  | cons m ms ih =>
    obtain ⟨ht, hf⟩ := ih
    cases h : runs m <;> simp [h, ht, hf]

structure Updated (mesh mesh' : Mesh φ) (now : Time) (x : Exchange) : Prop where
  balance : mesh.network.Balance mesh'.network x.offered.length
    (x.handed.length + x.undeliverable.length)
  inFlight : mesh'.network.inFlight =
    x.taken.foldl (fun q e => q.insert e.1 e.2) (mesh.network.inFlight.after now)
  mail : ∀ c, mesh'.fleet.mail c = mesh.fleet.mail c + x.mail c
  outbox : ∀ n ∈ mesh'.fleet.toList, n.outbox = []

theorem exchange_of_work {mesh : Mesh φ} {now : Time} {reached : List Bool} {fleet : Fleet φ}
    (h : work mesh.fleet ((mesh.network.drain now).1.map (·.2)) mesh.network.cuts now =
      .ok (reached, fleet)) :
    mesh.exchange now = .ok {
      handed := ((mesh.network.drain now).1.map (·.2)).filter fun m =>
        mesh.fleet.runs m.link.target
      undeliverable := ((mesh.network.drain now).1.map (·.2)).filter fun m =>
        !mesh.fleet.runs m.link.target
      offered := fleet.unsent.zip
        ((mesh.network.drain now).2.enqueueAll now fleet.unsent).1 } := by
  rw [exchange]
  simp only [h]
  rfl

theorem update_spec {mesh mesh' : Mesh φ} {now : Time} {report : UpdateReport}
    (h : mesh.update now = .ok (report, mesh')) :
    ∃ x, mesh.exchange now = .ok x ∧ report = x.report ∧ Updated mesh mesh' now x := by
  obtain ⟨reached, fleet, hw, rfl, rfl⟩ := update_eq_ok h
  obtain ⟨rfl, hm⟩ := work_spec hw
  obtain ⟨handed, undeliverable⟩ := count_reached ((mesh.network.drain now).1.map (·.2))
    fun m => mesh.fleet.runs m.link.target
  have ht := Network.length_enqueueAll now fleet.unsent (mesh.network.drain now).2
  refine ⟨_, exchange_of_work hw, ?_, ?_, ?_, fun c => ?_, fun n hn => ?_⟩
  · rw [Exchange.report, Exchange.taken, Network.length_taken ht, List.length_zip, ht, Nat.min_self,
      handed, undeliverable]
  · have hb := (mesh.network.drain_balance now).trans
      (Network.enqueueAll_balance now fleet.unsent (mesh.network.drain now).2)
    have hl := (List.filter_append_perm (fun m : Message => mesh.fleet.runs m.link.target)
      ((mesh.network.drain now).1.map (·.2))).length_eq
    rw [List.length_append, List.length_map] at hl
    rw [Nat.zero_add, Nat.add_zero] at hb
    rw [List.length_zip, ht, Nat.min_self, hl]
    exact hb
  · exact Network.inFlight_enqueueAll now fleet.unsent (mesh.network.drain now).2
  · rw [Exchange.mail, Exchange.flushed, List.map_fst_zip (Nat.le_of_eq ht.symm), Fleet.mail_flush,
      hm, Nat.add_assoc]
    exact congrArg (mesh.fleet.mail c + ·) (Nat.add_comm _ _)
  · obtain ⟨id, hn⟩ := Fleet.mem_toList.1 hn
    exact Fleet.outbox_of_find?_flush hn

end Mesh

end MeshNet
