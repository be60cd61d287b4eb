import MeshNet.Mesh
import MeshNet.Proofs.Conservation.Sum
import MeshNet.Proofs.Node.Outcome

namespace MeshNet

inductive MailCount where
  | messagesSent
  | bytesSent
  | messagesReceived
  | bytesReceived
deriving DecidableEq

namespace MailCount

def sending (payload : Payload) : MailCount → Nat
  | messagesSent => 1
  | bytesSent => payload.length
  | messagesReceived | bytesReceived => 0

def receiving (payload : Payload) : MailCount → Nat
  | messagesReceived => 1
  | bytesReceived => payload.length
  | messagesSent | bytesSent => 0

end MailCount

namespace Metrics

def mail (m : Metrics) : MailCount → Nat
  | .messagesSent => m.messagesSent
  | .bytesSent => m.bytesSent
  | .messagesReceived => m.messagesReceived
  | .bytesReceived => m.bytesReceived

theorem mail_new (c : MailCount) : ({} : Metrics).mail c = 0 := by
  cases c <;> rfl

theorem mail_receive (m : Metrics) (payload : Payload) (c : MailCount) :
    (m.receive payload).mail c = m.mail c + c.receiving payload := by
  cases c <;> rfl

theorem mail_session (m : Metrics) (uptime : Time) (crashes : Nat) :
    ({ m with uptime, crashes } : Metrics).mail = m.mail := by
  funext c
  cases c <;> rfl

theorem mail_send (m : Metrics) (messages : List Outgoing) (c : MailCount) :
    (m.send messages).mail c =
      m.mail c + (messages.map fun o => c.sending o.payload).sum := by
  have bytes : Outgoing.bytes messages = (messages.map fun o => o.payload.length).sum := by
    induction messages with
    | nil => rfl
    | cons o messages ih =>
      rw [Outgoing.bytes, ih]
      rfl
  cases c with
  | messagesSent => simp [mail, send, MailCount.sending]
  | bytesSent => simp [mail, send, MailCount.sending, bytes]
  | messagesReceived => simp [mail, send, MailCount.sending]
  | bytesReceived => simp [mail, send, MailCount.sending]

end Metrics

namespace Node

variable {φ : Type} [Firmware φ]

theorem mail_call {n m : Node φ} {now : Time} {c : Callback} (h : n.call now c = .ok m) :
    m.metrics.mail = n.metrics.mail := by
  obtain ⟨device, sent, rfl⟩ := call_eq_ok h
  rfl

theorem mail_boot {n m : Node φ} {now : Time} (h : n.boot now = .ok m) :
    m.metrics.mail = n.metrics.mail := by
  obtain ⟨device, sent, rfl⟩ := boot_eq_ok h
  rfl

omit [Firmware φ] in
theorem mail_stop {n m : Node φ} {now : Time} (h : n.stop now = .ok m) :
    m.metrics.mail = n.metrics.mail := by
  obtain ⟨uptime, rfl⟩ := stop_eq_ok h
  exact n.metrics.mail_session uptime n.metrics.crashes

omit [Firmware φ] in
theorem mail_crash {n m : Node φ} {now : Time} (h : n.crash now = .ok m) :
    m.metrics.mail = n.metrics.mail := by
  obtain ⟨uptime, rfl⟩ := crash_eq_ok h
  exact n.metrics.mail_session uptime _

theorem mail_reboot {n m : Node φ} {now : Time} (h : n.reboot now = .ok m) :
    m.metrics.mail = n.metrics.mail := by
  obtain ⟨device, sent, uptime, rfl⟩ := reboot_eq_ok h
  exact n.metrics.mail_session uptime n.metrics.crashes

theorem mail_refreshPeers {n m : Node φ} {now : Time} {peers : List NodeId}
    (h : n.refreshPeers now peers = .ok m) : m.metrics.mail = n.metrics.mail := by
  obtain ⟨device, sent, rfl⟩ := refreshPeers_eq_ok h
  rfl

theorem mail_deliver {n m : Node φ} {now : Time} {message : Message}
    (h : n.deliver now message = .ok (some m)) (c : MailCount) :
    m.metrics.mail c = n.metrics.mail c + c.receiving message.payload := by
  obtain ⟨device, sent, rfl⟩ := (deliver_eq_ok h).2 m rfl
  exact n.metrics.mail_receive message.payload c

theorem isRunning_deliver {n : Node φ} {now : Time} {message : Message}
    {received : Option (Node φ)} (h : n.deliver now message = .ok received) :
    received.isSome = n.isRunning ∧ ∀ m ∈ received, m.isRunning = n.isRunning := by
  obtain ⟨taken, delivered⟩ := deliver_eq_ok h
  refine ⟨taken, fun m hm => ?_⟩
  obtain ⟨device, sent, rfl⟩ := delivered m hm
  rw [isRunning, Option.isSome_map, isRunning]

end Node

namespace Fleet

variable {φ : Type}

def mail (f : Fleet φ) (c : MailCount) : Nat := MapSum.sum (fun n => n.metrics.mail c) f.nodes

theorem mail_insert (f : Fleet φ) (id : NodeId) (n : Node φ) (c : MailCount) :
    ({ f with nodes := f.nodes.insert id n } : Fleet φ).mail c +
      ((f.find? id).map fun n => n.metrics.mail c).getD 0 = f.mail c + n.metrics.mail c :=
  MapSum.sum_insert _ f.nodes id n

theorem mail_replace {f : Fleet φ} {id : NodeId} {n m : Node φ} (h : f.find? id = some n)
    (kept : m.metrics.mail = n.metrics.mail) :
    ({ f with nodes := f.nodes.insert id m } : Fleet φ).mail = f.mail := by
  funext c
  have hi := f.mail_insert id m c
  rw [h, kept, Option.map_some, Option.getD_some] at hi
  exact Nat.add_right_cancel hi

theorem mail_map {f : Fleet φ} {change : Node φ → Node φ}
    (kept : ∀ n, (change n).metrics.mail = n.metrics.mail) : (f.map change).mail = f.mail := by
  funext c
  rw [mail, map, MapSum.sum_map]
  simp only [kept]
  rfl

theorem mail_modify {f : Fleet φ} {id : NodeId} {change : Node φ → Node φ}
    (kept : ∀ n, (change n).metrics.mail = n.metrics.mail) :
    (f.modify id change).mail = f.mail := by
  funext c
  exact MapSum.sum_modify _ (fun n => congrFun (kept n) c) f.nodes id

theorem map_of_mapM {μ : Node φ → Nat} {act : Node φ → Checked (Node φ)}
    {es gs : List (NodeId × Node φ)}
    (h : (es.mapM fun e => return (e.1, ← act e.2) : Checked _) = .ok gs)
    (kept : ∀ n m, act n = .ok m → μ m = μ n) :
    gs.map (fun e => μ e.2) = es.map fun e => μ e.2 := by
  induction es generalizing gs with
  | nil =>
    cases h
    rfl
  | cons e es ih =>
    rw [List.mapM_cons] at h
    obtain ⟨g, hg, h⟩ := Checked.bind_eq_ok.1 h
    obtain ⟨gs', hgs, h⟩ := Checked.bind_eq_ok.1 h
    obtain ⟨m, hm, hg⟩ := Checked.bind_eq_ok.1 hg
    cases h
    cases hg
    rw [List.map_cons, List.map_cons, ih hgs, kept _ _ hm]

theorem mail_each {f g : Fleet φ} {act : Node φ → Checked (Node φ)} (h : f.each act = .ok g)
    (kept : ∀ n m, act n = .ok m → m.metrics.mail = n.metrics.mail) : g.mail = f.mail := by
  funext c
  obtain ⟨gs, hgs, h⟩ := Checked.bind_eq_ok.1 h
  cases h
  have keys : gs.map (·.1) = f.nodes.toList.map (·.1) := (mem_of_mapM hgs).1
  have distinct : gs.Pairwise fun a b => ¬ compare a.1 b.1 = .eq := by
    have hd := f.nodes.distinct_keys_toList
    rw [← List.pairwise_map (f := Prod.fst) (R := fun a b => ¬ compare a b = .eq)] at hd ⊢
    rwa [keys]
  have values := map_of_mapM (μ := fun n => n.metrics.mail c) hgs
    fun n m hm => congrFun (kept n m hm) c
  rw [mail, MapSum.sum_ofList _ distinct, values]
  exact (MapSum.sum_eq (fun n : Node φ => n.metrics.mail c) f.nodes).symm

theorem mail_empty : (∅ : Fleet φ).mail = fun _ => 0 := by
  funext c
  exact MapSum.sum_empty _

theorem mail_put {f : Fleet φ} {n : Node φ} (h : f.find? n.id = none) (fresh : n.metrics = {}) :
    (f.put n).mail = f.mail := by
  funext c
  have hi := f.mail_insert n.id n c
  rw [h, fresh, Metrics.mail_new] at hi
  exact hi

theorem find?_of_obstacle?_eq_none {f : Fleet φ} {id : NodeId} (h : f.obstacle? id = none) :
    f.find? id = none := by
  have hc : f.contains id = false := by
    rw [obstacle?] at h
    split at h
    · cases h
    · split at h
      · cases h
      · next hc => simpa using hc
  rw [contains, Std.ExtTreeMap.contains_eq_isSome_getElem?] at hc
  exact Option.not_isSome_iff_eq_none.1 (Bool.eq_false_iff.1 hc)

theorem mail_add {f g : Fleet φ} {id : NodeId} (h : f.add id = .ok g) : g.mail = f.mail := by
  rw [add] at h
  split at h
  · cases h
  · next ho =>
    cases h
    exact mail_put (find?_of_obstacle?_eq_none ho) rfl

theorem mail_create {f g : Fleet φ} {catalogue : Catalogue φ} {spec : NodeSpec}
    (h : f.create catalogue spec = .ok g) : g.mail = f.mail := by
  rw [create] at h
  split at h
  · cases h
  · next ho _ =>
    cases h
    exact mail_put (n := { id := spec.id }) (find?_of_obstacle?_eq_none ho) rfl
  · next ho _ =>
    split at h
    · cases h
    · next firmware _ =>
      cases h
      exact mail_put (n := { id := spec.id, device := _ }) (find?_of_obstacle?_eq_none ho) rfl

theorem mail_stopAll {f g : Fleet φ} {now : Time} {stopped : Nat}
    (h : f.stopAll now = .ok (stopped, g)) : g.mail = f.mail := by
  obtain ⟨g', he, h⟩ := Checked.bind_eq_ok.1 h
  cases h
  exact mail_each (f := f.observe now) he fun n m hm => Node.mail_stop hm

theorem mail_remove {f g : Fleet φ} {id : NodeId} {now : Time} {removed : Option (Node φ)}
    (h : f.remove id now = .ok (removed, g)) (c : MailCount) :
    g.mail c + (removed.toList.map fun n => n.metrics.mail c).sum = f.mail c := by
  rw [remove] at h
  split at h
  · cases h
    rfl
  · next n hn =>
    obtain ⟨m, hm, h⟩ := Checked.bind_eq_ok.1 h
    cases h
    have he := MapSum.sum_erase (fun n : Node φ => n.metrics.mail c) hn
    rw [Option.toList, List.map_singleton, List.sum_singleton, Node.mail_stop hm, Nat.add_comm]
    exact he.symm

section Passes

variable [Firmware φ]

theorem mail_startAll {f g : Fleet φ} {now : Time} {started : Nat}
    (h : f.startAll now = .ok (started, g)) : g.mail = f.mail := by
  obtain ⟨g', he, h⟩ := Checked.bind_eq_ok.1 h
  cases h
  refine mail_each (f := f.observe now) he fun n m hm => ?_
  split at hm
  · cases hm
    rfl
  · exact Node.mail_boot hm

theorem mail_deliver {f g : Fleet φ} {now : Time} {m : Message} {reached : Bool}
    (h : f.deliver now m = .ok (reached, g)) (c : MailCount) :
    g.mail c = f.mail c + if reached then c.receiving m.payload else 0 := by
  rw [deliver] at h
  split at h
  · cases h
    rfl
  · next n hn =>
    obtain ⟨received, hd, h⟩ := Checked.bind_eq_ok.1 h
    cases received with
    | none =>
      cases h
      rfl
    | some n' =>
      cases h
      have hi := f.mail_insert m.link.target n' c
      rw [hn, Option.map_some, Option.getD_some, Node.mail_deliver hd] at hi
      rw [if_pos rfl]
      omega

def runs (f : Fleet φ) (id : NodeId) : Bool := (f.find? id).any (·.isRunning)

theorem runs_deliver {f g : Fleet φ} {now : Time} {m : Message} {reached : Bool}
    (h : f.deliver now m = .ok (reached, g)) :
    reached = f.runs m.link.target ∧ g.runs = f.runs := by
  rw [deliver] at h
  split at h
  · next hn =>
    cases h
    rw [runs, hn]
    exact ⟨rfl, rfl⟩
  · next n hn =>
    have hr : f.runs m.link.target = n.isRunning := by
      rw [runs, hn]
      rfl
    obtain ⟨received, hd, h⟩ := Checked.bind_eq_ok.1 h
    obtain ⟨hs, hm⟩ := Node.isRunning_deliver hd
    cases received with
    | none =>
      cases h
      exact ⟨hs.trans hr.symm, rfl⟩
    | some n' =>
      cases h
      refine ⟨hs.trans hr.symm, funext fun id => ?_⟩
      rw [runs, find?, Std.ExtTreeMap.getElem?_insert]
      split
      · next hc =>
        obtain rfl := Std.compare_eq_iff_eq.1 hc
        rw [hr]
        exact hm n' rfl
      · rfl

theorem reached_deliverAll {f g : Fleet φ} {now : Time} {ms : List Message} {reached : List Bool}
    (h : deliverAll now ms f = .ok (reached, g)) :
    reached = ms.map fun m => f.runs m.link.target := by
  induction ms generalizing f reached with
  | nil =>
    cases h
    rfl
  | cons m ms ih =>
    obtain ⟨⟨r, f'⟩, hd, h⟩ := Checked.bind_eq_ok.1 h
    obtain ⟨⟨rs, f''⟩, hs, h⟩ := Checked.bind_eq_ok.1 h
    cases h
    obtain ⟨hr, hf⟩ := runs_deliver hd
    rw [ih hs, hf, hr]
    rfl

theorem mail_deliverAll {f g : Fleet φ} {now : Time} {ms : List Message} {reached : List Bool}
    (h : deliverAll now ms f = .ok (reached, g)) (c : MailCount) :
    g.mail c = f.mail c +
      ((ms.filter fun m => f.runs m.link.target).map fun m => c.receiving m.payload).sum := by
  induction ms generalizing f reached with
  | nil =>
    cases h
    rfl
  | cons m ms ih =>
    obtain ⟨⟨r, f'⟩, hd, h⟩ := Checked.bind_eq_ok.1 h
    obtain ⟨⟨rs, f''⟩, hs, h⟩ := Checked.bind_eq_ok.1 h
    cases h
    obtain ⟨hr, hf⟩ := runs_deliver hd
    rw [ih hs, hf, mail_deliver hd, hr, Nat.add_assoc, List.filter_cons]
    split
    · rfl
    · rw [Nat.zero_add]

theorem mail_refreshAll {f g : Fleet φ} {now : Time} {cuts : Cuts}
    (h : f.refreshAll now cuts = .ok g) : g.mail = f.mail := by
  unfold refreshAll at h
  refine mail_each h fun n m hm => ?_
  split at hm
  · exact Node.mail_refreshPeers hm
  · cases hm
    rfl

theorem mail_tickAll {f g : Fleet φ} {now : Time} (h : f.tickAll now = .ok g) :
    g.mail = f.mail :=
  mail_each h fun _ _ hm => Node.mail_call hm

end Passes

theorem mem_toList {f : Fleet φ} {n : Node φ} : n ∈ f.toList ↔ ∃ id, f.find? id = some n := by
  rw [toList, MapSum.values_eq, List.mem_map]
  simp only [Prod.exists, exists_eq_right, Std.ExtTreeMap.mem_toList_iff_getElem?_eq_some, find?]

theorem mem_unsent {f : Fleet φ} {m : Message} (h : m ∈ f.unsent) :
    ∃ id n, f.find? id = some n ∧ ∃ o ∈ n.outbox, m = o.sentBy n.id := by
  obtain ⟨n, hn, h⟩ := List.mem_flatMap.1 h
  obtain ⟨o, ho, rfl⟩ := List.mem_map.1 h
  obtain ⟨id, hn⟩ := mem_toList.1 hn
  exact ⟨id, n, hn, o, ho, rfl⟩

theorem outbox_of_find?_flush {f : Fleet φ} {id : NodeId} {n : Node φ}
    (h : (f.map .flush).find? id = some n) : n.outbox = [] := by
  rw [find?_map] at h
  obtain ⟨k, -, rfl⟩ := Option.map_eq_some_iff.1 h
  rw [Node.outbox, Node.flush]
  cases k.session <;> rfl

theorem sum_unsent (f : Fleet φ) (c : MailCount) :
    (f.unsent.map fun m => c.sending m.payload).sum =
      MapSum.sum (fun n => (n.outbox.map fun o => c.sending o.payload).sum) f.nodes := by
  have h (ns : List (Node φ)) :
      ((ns.flatMap fun n => n.outbox.map (·.sentBy n.id)).map fun m => c.sending m.payload).sum =
        (ns.map fun n => (n.outbox.map fun o => c.sending o.payload).sum).sum := by
    induction ns with
    | nil => rfl
    | cons n ns ih =>
      rw [List.flatMap_cons, List.map_append, List.sum_append, ih, List.map_map]
      rfl
  exact h f.toList

theorem mail_flush (f : Fleet φ) (c : MailCount) :
    (f.map .flush).mail c = f.mail c + (f.unsent.map fun m => c.sending m.payload).sum := by
  have hf (n : Node φ) : n.flush.metrics.mail c =
      n.metrics.mail c + (n.outbox.map fun o => c.sending o.payload).sum :=
    n.metrics.mail_send n.outbox c
  rw [mail, map, MapSum.sum_map, sum_unsent, funext hf, MapSum.sum_add]
  rfl

end Fleet

end MeshNet
