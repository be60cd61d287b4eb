import MeshNet.Proofs.Conservation.Exchange
import MeshNet.Proofs.Fleet.Step
import MeshNet.Proofs.Partition.Tags

namespace MeshNet

namespace Node

variable {φ : Type} [Firmware φ]

def take (now : Time) (n : Node φ) (m : Message) : Checked (Node φ) :=
  (·.getD n) <$> n.deliver now m

def takeAll (now : Time) (mail : List Message) (n : Node φ) : Checked (Node φ) :=
  mail.foldlM (take now) n

def attend (now : Time) (mail : List Message) (peers : List NodeId) (n : Node φ) :
    Checked (Node φ) := do
  let n ← n.takeAll now mail
  let n ← n.refreshPeers now peers
  let n ← n.tick now
  return n.flush

def wake (now : Time) (n : Node φ) : Checked (Node φ) :=
  if n.isRunning then .ok n else n.boot now

theorem wake_of_start {n : Node φ} {now : Time} {r : Option NodeError × Node φ}
    (h : n.step (.start now) = .ok r) : n.wake now = .ok r.2 := by
  rw [step] at h
  cases hr : n.isRunning with
  | true =>
    rw [start_of_running hr] at h
    cases h
    rw [wake, if_pos hr]
  | false =>
    rw [start_of_stopped hr] at h
    obtain ⟨outcome, hb, h⟩ := Checked.bind_eq_ok.1 h
    obtain ⟨m, hm, rfl⟩ := Checked.map_eq_ok.1 hb
    cases h
    rw [wake, if_neg (by simp [hr])]
    exact hm

theorem step_eq_ok {n m : Node φ} {op : LifecycleOp} (h : (·.2) <$> n.step op = .ok m) :
    match op with
    | .start now => n.wake now = .ok m
    | .stop now => n.stop now = .ok m
    | .crash now => n.crash now = .ok m
    | .restart now => n.reboot now = .ok m := by
  obtain ⟨r, hs, rfl⟩ := Checked.map_eq_ok.1 h
  cases op with
  | start now => exact wake_of_start hs
  | restart now =>
    rw [step, run_restart] at hs
    obtain ⟨outcome, hb, hs⟩ := Checked.bind_eq_ok.1 hs
    obtain ⟨m, hm, rfl⟩ := Checked.map_eq_ok.1 hb
    cases hs
    exact hm
  | stop now | crash now =>
    obtain ⟨m, hm, hs⟩ := Checked.bind_eq_ok.1 hs
    cases hs
    exact hm

end Node

def NodeSpec.device {φ : Type} (spec : NodeSpec) (catalogue : Catalogue φ) : Option (Device φ) :=
  spec.firmware.bind fun name =>
    catalogue.entries[name]?.map fun firmware => { firmware, settings := spec.settings }

namespace Fleet

variable {φ : Type}

/-- No node comes or goes, and each changes as `R` tells for its id. -/
structure Nodewise (R : NodeId → Node φ → Node φ → Prop) (f g : Fleet φ) : Prop where
  missing : ∀ id, f.find? id = none → g.find? id = none
  present : ∀ id n, f.find? id = some n → ∃ m, g.find? id = some m ∧ R id n m
  retired : g.retired = f.retired

structure Gains (f g : Fleet φ) (n : Node φ) : Prop where
  before : f.find? n.id = none
  after : g.find? n.id = some n
  others : ∀ id, id ≠ n.id → g.find? id = f.find? id
  retired : g.retired = f.retired
  lastSeen : g.lastSeen = f.lastSeen

structure Loses (f g : Fleet φ) (id : NodeId) : Prop where
  before : (f.find? id).isSome
  after : g.find? id = none
  others : ∀ i, i ≠ id → g.find? i = f.find? i
  retired : ∀ i, i ∈ g.retired ↔ i = id ∨ i ∈ f.retired

theorem find?_insert (f : Fleet φ) (id i : NodeId) (n : Node φ) :
    ({ f with nodes := f.nodes.insert id n } : Fleet φ).find? i =
      if i = id then some n else f.find? i := by
  simp only [find?, Std.ExtTreeMap.getElem?_insert, Std.compare_eq_iff_eq, eq_comm (a := id)]

theorem find?_erase (f : Fleet φ) (id i : NodeId) (retired : Std.ExtTreeSet NodeId) :
    ({ f with nodes := f.nodes.erase id, retired } : Fleet φ).find? i =
      if i = id then none else f.find? i := by
  simp only [find?, Std.ExtTreeMap.getElem?_erase, Std.compare_eq_iff_eq, eq_comm (a := id)]

namespace Nodewise

variable {R S T : NodeId → Node φ → Node φ → Prop} {f g k : Fleet φ}

theorem refl (h : ∀ id n, R id n n) (f : Fleet φ) : Nodewise R f f :=
  ⟨fun _ hn => hn, fun id n hn => ⟨n, hn, h id n⟩, rfl⟩

theorem same (f : Fleet φ) : Nodewise (fun _ n m => m = n) f f :=
  ⟨fun _ hn => hn, fun _ n hn => ⟨n, hn, rfl⟩, rfl⟩

theorem comp (h : Nodewise R f g) (h' : Nodewise S g k)
    (through : ∀ id a b c, R id a b → S id b c → T id a c) : Nodewise T f k := by
  refine ⟨fun id hn => h'.missing id (h.missing id hn), fun id n hn => ?_,
    h'.retired.trans h.retired⟩
  obtain ⟨m, hm, first⟩ := h.present id n hn
  obtain ⟨l, hl, second⟩ := h'.present id m hm
  exact ⟨l, hl, through id n m l first second⟩

theorem mono (h : Nodewise R f g) (weaker : ∀ id n m, R id n m → S id n m) : Nodewise S f g := by
  refine ⟨h.missing, fun id n hn => ?_, h.retired⟩
  obtain ⟨m, hm, hr⟩ := h.present id n hn
  exact ⟨m, hm, weaker id n m hr⟩

theorem rel (h : Nodewise R f g) {id : NodeId} {n m : Node φ} (hn : f.find? id = some n)
    (hm : g.find? id = some m) : R id n m := by
  obtain ⟨m', hm', hr⟩ := h.present id n hn
  obtain rfl := Option.some.inj (hm.symm.trans hm')
  exact hr

theorem isSome_find? (h : Nodewise R f g) (id : NodeId) :
    (g.find? id).isSome = (f.find? id).isSome := by
  cases hn : f.find? id with
  | none => rw [h.missing id hn]
  | some n =>
    obtain ⟨m, hm, -⟩ := h.present id n hn
    rw [hm]
    rfl

theorem runs_eq (h : Nodewise R f g) (keeps : ∀ id n m, R id n m → m.isRunning = n.isRunning) :
    g.runs = f.runs := by
  funext id
  cases hn : f.find? id with
  | none => rw [runs, runs, h.missing id hn, hn]
  | some n =>
    obtain ⟨m, hm, hr⟩ := h.present id n hn
    rw [runs, runs, hm, hn, Option.any_some, Option.any_some, keeps id n m hr]

theorem of_observe {now : Time} (h : Nodewise R (f.observe now) g) : Nodewise R f g :=
  ⟨h.missing, h.present, h.retired⟩

theorem each {act : Node φ → Checked (Node φ)} (h : f.each act = .ok g) :
    Nodewise (fun _ n m => act n = .ok m) f g := by
  refine ⟨fun id => (find?_each h id).1, fun id n hn => ?_, ?_⟩
  · obtain ⟨m, hm, hg⟩ := (find?_each h id).2 n hn
    exact ⟨m, hg, hm⟩
  · obtain ⟨nodes, -, h⟩ := Checked.bind_eq_ok.1 h
    cases h
    rfl

theorem insert {id : NodeId} {n m : Node φ} (hn : f.find? id = some n) (hr : R id n m)
    (others : ∀ i a, i ≠ id → R i a a) :
    Nodewise R f { f with nodes := f.nodes.insert id m } := by
  refine ⟨fun i hi => ?_, fun i a hi => ?_, rfl⟩
  · rw [find?_insert, if_neg, hi]
    rintro rfl
    rw [hn] at hi
    cases hi
  · rw [find?_insert]
    split
    · next he =>
      subst he
      obtain rfl := Option.some.inj (hn.symm.trans hi)
      exact ⟨m, rfl, hr⟩
    · next ne => exact ⟨a, hi, others i a ne⟩

theorem revise {id : NodeId} {act : Node φ → Checked (Node φ)} (h : f.revise id act = .ok g) :
    Nodewise (fun i n m => if i = id then act n = .ok m else m = n) f g := by
  rw [Fleet.revise] at h
  split at h
  · next hn =>
    cases h
    refine ⟨fun _ hi => hi, fun i n hi => ⟨n, hi, ?_⟩, rfl⟩
    rw [if_neg]
    rintro rfl
    rw [hn] at hi
    cases hi
  · next n hn =>
    obtain ⟨m, hm, rfl⟩ := Checked.map_eq_ok.1 h
    exact insert hn (by rw [if_pos rfl, hm]) fun i a ne => by rw [if_neg ne]

theorem map (f : Fleet φ) (change : Node φ → Node φ) :
    Nodewise (fun _ n m => m = change n) f (f.map change) := by
  refine ⟨fun id hn => ?_, fun id n hn => ⟨change n, ?_, rfl⟩, rfl⟩
  · rw [find?_map, hn]
    rfl
  · rw [find?_map, hn]
    rfl

theorem assign (f : Fleet φ) (id : NodeId) (tag : UInt32) :
    Nodewise (fun _ n m => ∃ tag, m = { n with partition := tag }) f (f.assign id tag) := by
  refine ⟨fun i hi => ?_, fun i n hi => ?_, rfl⟩
  · rw [find?_assign, hi]
    rfl
  · rw [find?_assign, hi]
    refine ⟨_, rfl, ?_⟩
    split
    · exact ⟨tag, rfl⟩
    · exact ⟨n.partition, rfl⟩

theorem assignGroups (f : Fleet φ) (groups : Groups) :
    Nodewise (fun _ n m => ∃ tag, m = { n with partition := tag }) f (f.assignGroups groups) := by
  refine assignGroups_induction (P := Nodewise _ f) (refl (fun _ n => ⟨n.partition, rfl⟩) f)
    (fun g id tag h => ?_) groups
  exact h.comp (assign g id tag) fun _ a b c ⟨s, hs⟩ ⟨t, ht⟩ => ⟨t, by rw [ht, hs]⟩

variable [Firmware φ]

theorem deliver {now : Time} {m : Message} {reached : Bool}
    (h : f.deliver now m = .ok (reached, g)) :
    Nodewise (fun id n k => n.takeAll now ([m].filter (·.link.target = id)) = .ok k) f g := by
  have other {id : NodeId} (n : Node φ) (ne : id ≠ m.link.target) :
      n.takeAll now ([m].filter (·.link.target = id)) = .ok n := by
    rw [List.filter_cons_of_neg (by simpa using ne.symm)]
    rfl
  have own (n : Node φ) :
      n.takeAll now ([m].filter (·.link.target = m.link.target)) = n.take now m := by
    rw [List.filter_cons_of_pos (by simp)]
    exact bind_pure _
  rw [Fleet.deliver] at h
  split at h
  · next hn =>
    cases h
    refine ⟨fun _ hi => hi, fun i n hi => ⟨n, hi, other n ?_⟩, rfl⟩
    rintro rfl
    rw [hn] at hi
    cases hi
  · next n hn =>
    obtain ⟨received, hr, h⟩ := Checked.bind_eq_ok.1 h
    have taken : n.take now m = .ok (received.getD n) := by
      rw [Node.take, hr]
      rfl
    cases received with
    | none =>
      cases h
      refine ⟨fun _ hi => hi, fun i a hi => ⟨a, hi, ?_⟩, rfl⟩
      by_cases he : i = m.link.target
      · subst he
        obtain rfl := Option.some.inj (hn.symm.trans hi)
        rw [own, taken]
        rfl
      · exact other a he
    | some k =>
      cases h
      exact insert hn (by rw [own, taken]; rfl) fun i a ne => other a ne

theorem deliverAll {now : Time} {ms : List Message} {reached : List Bool}
    (h : deliverAll now ms f = .ok (reached, g)) :
    Nodewise (fun id n k => n.takeAll now (ms.filter (·.link.target = id)) = .ok k) f g := by
  induction ms generalizing f reached with
  | nil =>
    cases h
    refine refl (fun id n => ?_) g
    rfl
  | cons m ms ih =>
    obtain ⟨⟨r, f'⟩, hm, h⟩ := Checked.bind_eq_ok.1 h
    obtain ⟨⟨rs, f''⟩, hms, h⟩ := Checked.bind_eq_ok.1 h
    cases h
    refine (deliver hm).comp (ih hms) fun id a b c ha hb => ?_
    rw [← List.singleton_append, List.filter_append, Node.takeAll, List.foldlM_append]
    exact Checked.bind_eq_ok.2 ⟨b, ha, hb⟩

theorem refreshAll {now : Time} {cuts : Cuts} (h : f.refreshAll now cuts = .ok g) :
    Nodewise (fun _ n m => ∃ peers, n.refreshPeers now peers = .ok m) f g := by
  rw [Fleet.refreshAll] at h
  refine (each h).mono fun _ n m hm => ?_
  split at hm
  · exact ⟨_, hm⟩
  · next stopped =>
    have hs : n.session = none := Option.not_isSome_iff_eq_none.1 stopped
    exact ⟨[], by rw [Node.refreshPeers, hs, hm]⟩

theorem startAll {now : Time} {started : Nat} (h : f.startAll now = .ok (started, g)) :
    Nodewise (fun _ n m => n.wake now = .ok m) f g := by
  obtain ⟨g', he, h⟩ := Checked.bind_eq_ok.1 h
  cases h
  exact (each he).of_observe

omit [Firmware φ] in
theorem stopAll {now : Time} {stopped : Nat} (h : f.stopAll now = .ok (stopped, g)) :
    Nodewise (fun _ n m => n.stop now = .ok m) f g := by
  obtain ⟨g', he, h⟩ := Checked.bind_eq_ok.1 h
  cases h
  exact (each he).of_observe

end Nodewise

end Fleet

namespace Mesh

variable {φ : Type} [Firmware φ]

theorem update_nodewise {mesh mesh' : Mesh φ} {now : Time} {report : UpdateReport}
    (h : mesh.update now = .ok (report, mesh')) :
    Fleet.Nodewise
      (fun id n m => ∃ peers, n.attend now
        (((mesh.network.drain now).1.map (·.2)).filter (·.link.target = id)) peers = .ok m)
      mesh.fleet mesh'.fleet := by
  obtain ⟨reached, k, hw, -, rfl⟩ := update_eq_ok h
  obtain ⟨f, g, hd, hr, ht⟩ := work_eq_ok hw
  have received := Fleet.Nodewise.of_observe (Fleet.Nodewise.deliverAll hd)
  have refreshed := Fleet.Nodewise.refreshAll hr
  have ticked := Fleet.Nodewise.each ht
  have flushed := Fleet.Nodewise.map k .flush
  refine ⟨fun id hn => ?_, fun id n hn => ?_, ?_⟩
  · exact flushed.missing id (ticked.missing id (refreshed.missing id (received.missing id hn)))
  · obtain ⟨a, hfa, ha⟩ := received.present id n hn
    obtain ⟨b, hgb, peers, hb⟩ := refreshed.present id a hfa
    obtain ⟨c, hkc, hc⟩ := ticked.present id b hgb
    obtain ⟨d, hd, rfl⟩ := flushed.present id c hkc
    refine ⟨_, hd, peers, ?_⟩
    rw [Node.attend, ha, Checked.ok_bind, hb, Checked.ok_bind, hc]
    rfl
  · exact ticked.retired.trans (refreshed.retired.trans received.retired)

end Mesh

def Event.Alters {φ : Type} [Firmware φ] (now : Time) (id : NodeId) (n m : Node φ) : Event → Prop
  | start i => if id = i then n.wake now = .ok m else m = n
  | stop i _ => if id = i then n.stop now = .ok m else m = n
  | crash i => if id = i then n.crash now = .ok m else m = n
  | restart i => if id = i then n.reboot now = .ok m else m = n
  | partition _ | heal => ∃ tag, m = { n with partition := tag }
  | drop _ | restore _ | degrade _ _ _ => m = n

theorem Node.of_altered {φ : Type} {n m : Node φ} {R : Node φ → Prop} {own act : Prop}
    [Decidable own] (altered : if own then act else m = n) (acted : act → R m) (kept : R n) :
    R m := by
  split at altered
  · exact acted altered
  · exact altered ▸ kept

theorem Event.effect_nodewise {φ : Type} [Firmware φ] {mesh mesh' : Mesh φ} {e : Event} {now : Time}
    (h : e.effect now mesh = .ok mesh') :
    Fleet.Nodewise (fun id n m => e.Alters now id n m) mesh.fleet mesh'.fleet := by
  cases e with
  | start id | stop id graceful | crash id | restart id =>
    obtain ⟨fleet, hr, rfl⟩ := Checked.map_eq_ok.1 h
    exact .revise hr
  | drop l | restore l =>
    cases h
    exact .same _
  | degrade l latency loss =>
    rw [effect] at h
    split at h
    · cases h
      exact .same _
    · cases h
      exact .same _
  | partition groups =>
    cases h
    exact .assignGroups mesh.fleet groups
  | heal =>
    cases h
    exact (Fleet.Nodewise.map _ _).mono fun _ _ _ hm => ⟨0, hm⟩

namespace FleetOp

variable {φ : Type}

def staffs : FleetOp φ → Bool
  | add _ | create _ _ | remove _ _ => true
  | startAll _ | stopAll _ | shutdown | call _ _ | adjustTime _ _ _ => false

variable [Firmware φ]

def Alters (f : Fleet φ) (id : NodeId) (n m : Node φ) : FleetOp φ → Prop
  | add _ | create _ _ | remove _ _ => m = n
  | startAll now => n.wake now = .ok m
  | stopAll now => n.stop now = .ok m
  | shutdown => n.stop f.lastSeen = .ok m
  | call i op => if id = i then (·.2) <$> n.step op = .ok m else m = n
  | adjustTime i now offset => if id = i then n.adjustTime now offset = .ok m else m = n

theorem step_nodewise {f g : Fleet φ} {op : FleetOp φ} (h : f.step op = .ok g)
    (stays : op.staffs = false) : Fleet.Nodewise (fun id n m => op.Alters f id n m) f g := by
  cases op with
  | add id | create catalogue spec | remove id now => cases stays
  | startAll now =>
    obtain ⟨r, hr, rfl⟩ := Checked.map_eq_ok.1 h
    exact .startAll hr
  | stopAll now | shutdown =>
    obtain ⟨r, hr, rfl⟩ := Checked.map_eq_ok.1 h
    exact .stopAll hr
  | call id op | adjustTime id now offset => exact .revise h

end FleetOp

namespace Fleet

variable {φ : Type} {f g : Fleet φ}

theorem gains_put {n : Node φ} (h : f.obstacle? n.id = none) : f.Gains (f.put n) n where
  before := find?_of_obstacle?_eq_none h
  after := by rw [put, find?_insert, if_pos rfl]
  others id ne := by rw [put, find?_insert, if_neg ne]
  retired := rfl
  lastSeen := rfl

theorem gains_of_add {id : NodeId} (h : f.add id = .ok g) : f.Gains g { id } := by
  rw [add] at h
  split at h
  · cases h
  · next free =>
    cases h
    exact gains_put free

theorem gains_of_create {catalogue : Catalogue φ} {spec : NodeSpec}
    (h : f.create catalogue spec = .ok g) :
    f.Gains g { id := spec.id, device := spec.device catalogue } := by
  rw [NodeSpec.device]
  rw [create] at h
  split at h
  · cases h
  · next free hf =>
    cases h
    rw [hf]
    exact gains_put free
  · next name free hf =>
    split at h
    · cases h
    · next firmware hc =>
      cases h
      have entry : catalogue.entries[name]? = some firmware := by
        rw [Catalogue.create] at hc
        split at hc
        · next found =>
          cases hc
          exact found
        · cases hc
      rw [hf, Option.bind_some, entry]
      exact gains_put free

theorem remove_cases {id : NodeId} {now : Time} {removed : Option (Node φ)}
    (h : f.remove id now = .ok (removed, g)) :
    (removed = none ∧ f.find? id = none ∧ g = f.observe now) ∨
      (removed.isSome ∧ f.Loses g id) := by
  rw [remove] at h
  split at h
  · next hn =>
    cases h
    exact .inl ⟨rfl, hn, rfl⟩
  · next n hn =>
    obtain ⟨m, hm, h⟩ := Checked.bind_eq_ok.1 h
    cases h
    refine .inr ⟨rfl, ?_, ?_, fun i ne => ?_, fun i => ?_⟩
    · exact Option.isSome_iff_exists.2 ⟨n, hn⟩
    · rw [find?_erase, if_pos rfl]
    · rw [find?_erase, if_neg ne]
      rfl
    · rw [Std.ExtTreeSet.mem_insert, Std.compare_eq_iff_eq, eq_comm]
      rfl

end Fleet

namespace FleetOp

variable {φ : Type}

def Adds (n : Node φ) : FleetOp φ → Prop
  | add id => n = { id }
  | create catalogue spec => n = { id := spec.id, device := spec.device catalogue }
  | remove _ _ | startAll _ | stopAll _ | shutdown | call _ _ | adjustTime _ _ _ => False

variable [Firmware φ] {f g : Fleet φ} {op : FleetOp φ}

theorem step_cases (h : f.step op = .ok g) :
    (∃ n, op.Adds n ∧ f.Gains g n) ∨ (∃ id now, op = .remove id now ∧ f.Loses g id) ∨
      Fleet.Nodewise (fun id n m => op.Alters f id n m) f g := by
  cases op with
  | add id =>
    rw [Fleet.step] at h
    cases ha : f.add id with
    | error e =>
      rw [ha] at h
      cases h
      exact .inr (.inr (.same f))
    | ok k =>
      rw [ha] at h
      cases h
      exact .inl ⟨_, rfl, Fleet.gains_of_add ha⟩
  | create catalogue spec =>
    rw [Fleet.step] at h
    cases hc : f.create catalogue spec with
    | error e =>
      rw [hc] at h
      cases h
      exact .inr (.inr (.same f))
    | ok k =>
      rw [hc] at h
      cases h
      exact .inl ⟨_, rfl, Fleet.gains_of_create hc⟩
  | remove id now =>
    obtain ⟨⟨removed, k⟩, hr, rfl⟩ := Checked.map_eq_ok.1 h
    rcases Fleet.remove_cases hr with ⟨-, -, rfl⟩ | ⟨-, loses⟩
    · exact .inr (.inr ⟨fun _ hn => hn, fun _ n hn => ⟨n, hn, rfl⟩, rfl⟩)
    · exact .inr (.inl ⟨id, now, rfl, loses⟩)
  | startAll now | stopAll now | shutdown | call id op | adjustTime id now offset =>
    exact .inr (.inr (step_nodewise h rfl))

theorem alters_of_step (h : f.step op = .ok g) {id : NodeId} {n m : Node φ}
    (hn : f.find? id = some n) (hm : g.find? id = some m) : op.Alters f id n m := by
  rcases step_cases h with ⟨new, adds, gains⟩ | ⟨i, now, rfl, loses⟩ | nodewise
  · have other : id ≠ new.id := by
      rintro rfl
      cases hn.symm.trans gains.before
    rw [gains.others id other, hn] at hm
    cases hm
    cases op with
    | add i | create catalogue spec => exact rfl
    | remove i now | startAll now | stopAll now | shutdown | call i op | adjustTime i now offset =>
      cases adds
  · have other : id ≠ i := by
      rintro rfl
      cases hm.symm.trans loses.after
    rw [loses.others id other, hn] at hm
    cases hm
    exact rfl
  · exact nodewise.rel hn hm

theorem adds_of_step (h : f.step op = .ok g) {id : NodeId} {m : Node φ}
    (hn : f.find? id = none) (hm : g.find? id = some m) : op.Adds m := by
  rcases step_cases h with ⟨new, adds, gains⟩ | ⟨i, now, -, loses⟩ | nodewise
  · by_cases he : id = new.id
    · subst he
      rwa [Option.some.inj (hm.symm.trans gains.after)]
    · cases hn.symm.trans ((gains.others id he).symm.trans hm)
  · by_cases he : id = i
    · subst he
      cases loses.after.symm.trans hm
    · cases hn.symm.trans ((loses.others id he).symm.trans hm)
  · cases (nodewise.missing id hn).symm.trans hm

end FleetOp

end MeshNet
