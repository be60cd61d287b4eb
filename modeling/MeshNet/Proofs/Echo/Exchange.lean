import MeshNet.Proofs.Echo.Conduct
import MeshNet.Proofs.Fleet.Tally
import MeshNet.Proofs.Simulation.Arrival

namespace MeshNet

namespace Timeline

variable {α : Type}

theorem countP_foldl_insert (p : α → Bool) (q : Timeline α) (es : List (Time × α)) :
    (es.foldl (fun q e => q.insert e.1 e.2) q).queue.countP (p ·.item) =
      q.queue.countP (p ·.item) + es.countP (p ·.2) := by
  induction es generalizing q with
  | nil => rfl
  | cons e es ih =>
    rw [List.foldl_cons, ih, (q.queue_insert_perm e.1 e.2).countP_eq]
    simp only [List.countP_cons]
    omega

end Timeline

theorem Waiting.item_of_mem_enumerate {α : Type} {first : Nat} {es : List (Time × α)}
    {w : Waiting α} (h : w ∈ enumerate first es) : w.item ∈ es.map (·.2) := by
  induction es generalizing first with
  | nil => cases h
  | cons e es ih =>
    rcases List.mem_cons.mp h with rfl | h
    · exact List.mem_cons_self
    · exact List.mem_cons_of_mem _ (ih h)

theorem Network.taken_sublist (offered : List (Message × Option Time)) :
    ((taken offered).map (·.2)).Sublist (offered.map (·.1)) := by
  induction offered with
  | nil => exact .slnil
  | cons o offered ih =>
    obtain ⟨m, time⟩ := o
    cases time with
    | none => exact ih.cons m
    | some time => exact ih.cons_cons m

namespace Fleet

variable {f g k : Fleet Builtin} {now : Time}

def echoed (f : Fleet Builtin) : Nat := f.tally (·.score.echoed)

def answered (f : Fleet Builtin) : Nat := f.tally (·.score.answered)

def pending (f : Fleet Builtin) : Nat := f.tally Node.pending

/-- From `f` to `g` the messages `handed` were taken. Every echo that was said was counted. -/
structure Converses (f g : Fleet Builtin) (handed : List Message) : Prop where
  said : g.echoed + f.pending = f.echoed + g.pending
  prompted : g.echoed ≤ f.echoed + handed.countP (!isEcho ·.payload)
  answered : g.answered ≤ f.answered + handed.countP (isEcho ·.payload)

namespace Converses

variable {handed more : List Message}

theorem trans (h : f.Converses g handed) (h' : g.Converses k more) :
    f.Converses k (handed ++ more) := by
  have said := h.said
  have said' := h'.said
  have prompted := h.prompted
  have prompted' := h'.prompted
  have answered := h.answered
  have answered' := h'.answered
  constructor
  · omega
  · rw [List.countP_append]
    omega
  · rw [List.countP_append]
    omega

theorem of_nodewise {R : NodeId → Node Builtin → Node Builtin → Prop} (h : Nodewise R f g)
    (kept : ∀ id n m, R id n m → m.score = n.score ∧ m.pending = n.pending) :
    f.Converses g [] := by
  have echoed : g.echoed = f.echoed := h.tally_eq fun id n m hr => by rw [(kept id n m hr).1]
  have answered : g.answered = f.answered := h.tally_eq fun id n m hr => by rw [(kept id n m hr).1]
  have pending : g.pending = f.pending := h.tally_eq fun id n m hr => (kept id n m hr).2
  exact ⟨by rw [echoed, pending], Nat.le_of_eq echoed, Nat.le_of_eq answered⟩

theorem refl (f : Fleet Builtin) : f.Converses f [] := ⟨rfl, Nat.le_refl _, Nat.le_refl _⟩

theorem of_takes {id : NodeId} {n m : Node Builtin} {p : Message} (hn : f.find? id = some n)
    (takes : n.Takes m p) : f.Converses { f with nodes := f.nodes.insert id m } [p] := by
  have echoed := tally_insert (μ := (·.score.echoed)) hn m
  have answered := tally_insert (μ := (·.score.answered)) hn m
  have pending := tally_insert (μ := Node.pending) hn m
  have told := takes.echoed
  have heard := takes.answered
  have unsent := takes.pending
  have short := n.score.length_replies_le p.link.source p.payload
  constructor
  · simp only [Fleet.echoed, Fleet.pending]
    omega
  · simp only [Fleet.echoed, List.countP_singleton]
    omega
  · simp only [Fleet.answered, List.countP_singleton]
    omega

theorem deliver {m : Message} {reached : Bool} (h : f.deliver now m = .ok (reached, g)) :
    f.Converses g ([m].filter fun m => f.runs m.link.target) := by
  obtain ⟨runs, -⟩ := runs_deliver h
  rw [List.filter_singleton, ← runs]
  rw [Fleet.deliver] at h
  split at h
  · cases h
    exact refl f
  · next n hn =>
    obtain ⟨received, hr, h⟩ := Checked.bind_eq_ok.mp h
    cases received with
    | none =>
      cases h
      exact refl f
    | some k =>
      cases h
      exact of_takes hn (Node.takes_of_deliver hr k rfl)

theorem deliverAll {ms : List Message} {reached : List Bool}
    (h : deliverAll now ms f = .ok (reached, g)) :
    f.Converses g (ms.filter fun m => f.runs m.link.target) := by
  induction ms generalizing f reached with
  | nil =>
    cases h
    exact refl g
  | cons m ms ih =>
    obtain ⟨⟨r, f'⟩, hd, h⟩ := Checked.bind_eq_ok.mp h
    obtain ⟨⟨rs, f''⟩, hs, h⟩ := Checked.bind_eq_ok.mp h
    cases h
    have rest := ih hs
    rw [(runs_deliver hd).2] at rest
    rw [← List.singleton_append, List.filter_append]
    exact (deliver hd).trans rest

theorem refreshAll {cuts : Cuts} (h : f.refreshAll now cuts = .ok g) : f.Converses g [] := by
  refine of_nodewise (.refreshAll h) fun id n m ⟨peers, hm⟩ => ?_
  have idles := Node.Idles.refreshPeers hm
  exact ⟨idles.score, by rw [Node.pending, idles.outbox, Node.pending]⟩

theorem tickAll (h : f.tickAll now = .ok g) : f.Converses g [] := by
  refine of_nodewise (.each h) fun id n m hm => ?_
  obtain ⟨score, prompts, outbox, prompting⟩ := Node.prompts_of_tick hm
  have none_echoes : prompts.countP (isEcho ·.payload) = 0 := by
    rw [List.countP_eq_zero]
    intro o ho
    rw [(prompting o ho).isEcho_eq_false]
    exact Bool.false_ne_true
  exact ⟨score, by rw [Node.pending, outbox, List.countP_append, none_echoes]; rfl⟩

end Converses

theorem countP_unsent (f : Fleet Builtin) :
    f.unsent.countP (isEcho ·.payload) = f.pending := by
  rw [unsent, List.countP_flatMap]
  refine congrArg List.sum (List.map_congr_left fun n _ => ?_)
  exact List.countP_map

def Idle (f : Fleet Builtin) : Prop := f.Every fun _ n => n.outbox = []

theorem Idle.pending (h : f.Idle) : f.pending = 0 := by
  rw [← countP_unsent, List.countP_eq_zero]
  intro m hm
  obtain ⟨id, n, hn, o, ho, -⟩ := mem_unsent hm
  rw [h id n hn] at ho
  cases ho

theorem idle_flush (f : Fleet Builtin) : (f.map .flush).Idle :=
  fun _ _ hn => outbox_of_find?_flush hn

theorem echoed_flush (f : Fleet Builtin) : (f.map .flush).echoed = f.echoed :=
  (Nodewise.map f .flush).tally_eq fun _ n m hm => by rw [hm]; rfl

theorem answered_flush (f : Fleet Builtin) : (f.map .flush).answered = f.answered :=
  (Nodewise.map f .flush).tally_eq fun _ n m hm => by rw [hm]; rfl

end Fleet

namespace Mesh

variable {fleet k : Fleet Builtin} {arrived : List Message} {cuts : Cuts} {now : Time}
  {reached : List Bool}

theorem converses_of_work (h : work fleet arrived cuts now = .ok (reached, k)) :
    fleet.Converses k (arrived.filter fun m => fleet.runs m.link.target) := by
  obtain ⟨f, g, hd, hr, ht⟩ := work_eq_ok h
  have observed : fleet.Converses (fleet.observe now) [] := ⟨rfl, Nat.le_refl _, Nat.le_refl _⟩
  have worked := observed.trans ((Fleet.Converses.deliverAll hd).trans
    ((Fleet.Converses.refreshAll hr).trans (.tickAll ht)))
  rwa [List.nil_append, List.append_nil, List.append_nil] at worked

theorem speaks_of_work (h : work fleet arrived cuts now = .ok (reached, k)) :
    Fleet.Nodewise (fun id n m => n.Speaks m (arrived.filter (·.link.target = id))) fleet k := by
  obtain ⟨f, g, hd, hr, ht⟩ := work_eq_ok h
  have received : Fleet.Nodewise (fun id n m => n.Speaks m (arrived.filter (·.link.target = id)))
      fleet f :=
    (Fleet.Nodewise.of_observe (.deliverAll hd)).mono fun _ _ _ => Node.Speaks.takeAll
  have refreshed : Fleet.Nodewise (fun _ n m => n.Speaks m []) f g :=
    (Fleet.Nodewise.refreshAll hr).mono fun _ _ _ ⟨_, hm⟩ => .of_idles (.refreshPeers hm)
  have ticked : Fleet.Nodewise (fun _ n m => n.Speaks m []) g k :=
    (Fleet.Nodewise.each ht).mono fun _ _ _ => Node.Speaks.tick
  refine received.comp (refreshed.comp ticked fun _ _ _ _ => Node.Speaks.trans) fun _ _ _ _ a b => ?_
  simpa using a.trans b

def Answers (mesh : Mesh Builtin) (handed : List Message) (m : Message) : Prop :=
  (∃ n, mesh.fleet.find? m.link.source = some n ∧ n.isRunning ∧ n.score.serves) ∧
    ∃ p ∈ handed, p.link = m.link.reverse ∧ isEcho p.payload = false ∧ m.payload = echoOf p.payload

theorem answers_of_unsent {mesh : Mesh Builtin} (keyed : mesh.fleet.Keyed) (idle : mesh.fleet.Idle)
    (h : work mesh.fleet arrived cuts now = .ok (reached, k)) {m : Message} (hm : m ∈ k.unsent) :
    Prompt m.payload ∨ mesh.Answers (arrived.filter fun p => mesh.fleet.runs p.link.target) m := by
  have speaks := speaks_of_work h
  have keyed : k.Keyed := by
    obtain ⟨f, g, hd, hr, ht⟩ := work_eq_ok h
    exact (((keyed.observe now).deliverAll hd).refreshAll hr).tickAll ht
  obtain ⟨id, worked, hk, o, ho, rfl⟩ := Fleet.mem_unsent hm
  obtain rfl : worked.id = id := keyed id worked hk
  obtain ⟨n, hn⟩ := Option.isSome_iff_exists.mp
    ((speaks.isSome_find? worked.id).symm.trans (congrArg Option.isSome hk))
  rcases (speaks.rel hn hk).outbox o ho with unsent | prompt | ⟨running, p, hp, answer⟩
  · rw [idle _ n hn] at unsent
    cases unsent
  · exact .inl prompt
  · obtain ⟨serves, unechoed, rfl⟩ := Score.mem_replies.mp answer
    obtain ⟨arrives, target⟩ := List.mem_filter.mp hp
    replace target : p.link.target = worked.id := by simpa using target
    have runs : mesh.fleet.runs p.link.target = true := by
      rw [target, Fleet.runs, hn]
      exact running
    refine .inr ⟨⟨n, hn, running, serves⟩, p, List.mem_filter.mpr ⟨arrives, runs⟩, ?_, unechoed, rfl⟩
    rw [Outgoing.sentBy, Link.reverse, ← target]

theorem flight_of_exchange {φ : Type} [Firmware φ] {mesh mesh' : Mesh φ} {x : Exchange}
    (hx : mesh.exchange now = .ok x) (updated : Updated mesh mesh' now x) :
    (∀ m ∈ x.handed, ∃ w ∈ mesh.network.inFlight.queue, w.item = m) ∧
      (∀ w ∈ mesh'.network.inFlight.queue,
        w ∈ mesh.network.inFlight.queue ∨ w.item ∈ x.flushed) ∧
      ∀ p : Message → Bool, mesh'.network.inFlight.queue.countP (p ·.item) + x.handed.countP p ≤
        mesh.network.inFlight.queue.countP (p ·.item) + x.flushed.countP p := by
  obtain ⟨⟨reached, k⟩, -, hx⟩ := Checked.bind_eq_ok.mp hx
  have handed : x.handed.Sublist ((mesh.network.inFlight.ready now).map (·.item)) := by
    cases hx
    rw [Network.drain, List.map_map]
    exact List.filter_sublist
  have taken : (x.taken.map (·.2)).Sublist x.flushed := Network.taken_sublist x.offered
  refine ⟨fun m hm => ?_, fun w hw => ?_, fun p => ?_⟩
  · obtain ⟨w, hw, rfl⟩ := List.mem_map.mp (handed.subset hm)
    exact ⟨w, (Timeline.mem_ready.mp hw).1, rfl⟩
  · rw [updated.inFlight, Timeline.mem_foldl_insert, Timeline.mem_after] at hw
    rcases hw with ⟨waits, -⟩ | admitted
    · exact .inl waits
    · exact .inr (taken.subset (Waiting.item_of_mem_enumerate admitted))
  · have arrived := handed.countP_le (p := p)
    have admitted := taken.countP_le (p := p)
    have split := congrArg (·.countP (p ·.item)) (mesh.network.inFlight.ready_append_after now)
    rw [List.countP_map] at arrived admitted
    simp only [List.countP_append] at split
    rw [updated.inFlight, Timeline.countP_foldl_insert]
    simp only [Function.comp_def] at arrived admitted
    omega

end Mesh

def Network.echoes (n : Network) : Nat := n.inFlight.queue.countP (isEcho ·.item.payload)

structure Mesh.Accounts (mesh mesh' : Mesh Builtin) (x : Exchange) (removed : List (Node Builtin)) :
    Prop where
  idle : mesh'.fleet.Idle
  handed : ∀ m ∈ x.handed, ∃ w ∈ mesh.network.inFlight.queue, w.item = m
  waiting : ∀ w ∈ mesh'.network.inFlight.queue,
    w ∈ mesh.network.inFlight.queue ∨ w.item ∈ x.flushed
  flushed : ∀ m ∈ x.flushed, Prompt m.payload ∨ mesh.Answers x.handed m
  echoed : mesh'.fleet.echoed + (removed.map (·.score.echoed)).sum =
    mesh.fleet.echoed + x.flushed.countP (isEcho ·.payload)
  prompted : x.flushed.countP (isEcho ·.payload) ≤ x.handed.countP (!isEcho ·.payload)
  answered : mesh'.fleet.answered + (removed.map (·.score.answered)).sum ≤
    mesh.fleet.answered + x.handed.countP (isEcho ·.payload)
  echoes : mesh'.network.echoes + x.handed.countP (isEcho ·.payload) ≤
    mesh.network.echoes + x.flushed.countP (isEcho ·.payload)

theorem Mesh.update_accounts {mesh mesh' : Mesh Builtin} {now : Time} {report : UpdateReport}
    (keyed : mesh.fleet.Keyed) (idle : mesh.fleet.Idle)
    (h : mesh.update now = .ok (report, mesh')) :
    ∃ x, mesh.exchange now = .ok x ∧ mesh.Accounts mesh' x [] := by
  obtain ⟨x, hx, -, updated⟩ := update_spec h
  obtain ⟨received, waiting, flight⟩ := flight_of_exchange hx updated
  obtain ⟨reached, k, hw, -, rfl⟩ := update_eq_ok h
  have moved := Except.ok.inj ((exchange_of_work hw).symm.trans hx)
  have handed : x.handed = ((mesh.network.drain now).1.map (·.2)).filter fun m =>
      mesh.fleet.runs m.link.target := by
    rw [← moved]
  have flushed : x.flushed = k.unsent := by
    rw [← moved]
    exact List.map_fst_zip
      (Nat.le_of_eq (Network.length_enqueueAll now k.unsent (mesh.network.drain now).2).symm)
  have worked := converses_of_work hw
  have said := worked.said
  have prompted := worked.prompted
  have answered := worked.answered
  -- Nothing was unsent before, so whatever was said in this update is flushed at its end.
  rw [idle.pending, ← Fleet.countP_unsent, ← flushed] at said
  rw [← handed] at prompted answered
  refine ⟨x, hx, Fleet.idle_flush k, received, waiting, fun m hm => ?_, ?_, ?_, ?_,
    flight (isEcho ·.payload)⟩
  · rw [flushed] at hm
    rw [handed]
    exact answers_of_unsent keyed idle hw hm
  · rw [Fleet.echoed_flush]
    exact said
  · omega
  · rw [Fleet.answered_flush]
    exact answered

end MeshNet
