import MeshNet.Proofs.Event.Outcome
import MeshNet.Proofs.Node.Uptime

namespace MeshNet

inductive FleetOp (φ : Type) where
  | add (id : NodeId)
  | create (catalogue : Catalogue φ) (spec : NodeSpec)
  | remove (id : NodeId) (now : Time)
  | startAll (now : Time)
  | stopAll (now : Time)
  | shutdown
  | call (id : NodeId) (op : LifecycleOp)
  | adjustTime (id : NodeId) (now : Time) (offset : Int32)

namespace Fleet

variable {φ : Type}

theorem ext {f g : Fleet φ} (find : ∀ id, f.find? id = g.find? id) (retired : f.retired = g.retired)
    (lastSeen : f.lastSeen = g.lastSeen) : f = g := by
  cases f
  cases g
  congr
  exact Std.ExtTreeMap.ext_getElem? find

def step [Firmware φ] (f : Fleet φ) : FleetOp φ → Checked (Fleet φ)
  | .add id => .ok ((f.add id).toOption.getD f)
  | .create catalogue spec => .ok ((f.create catalogue spec).toOption.getD f)
  | .remove id now => (·.2) <$> f.remove id now
  | .startAll now => (·.2) <$> f.startAll now
  | .stopAll now => (·.2) <$> f.stopAll now
  | .shutdown => (·.2) <$> f.shutdown
  | .call id op => f.revise id fun n => (·.2) <$> n.step op
  | .adjustTime id now offset => f.revise id (·.adjustTime now offset)

def Every (P : NodeId → Node φ → Prop) (f : Fleet φ) : Prop :=
  ∀ id n, f.find? id = some n → P id n

namespace Every

variable {P : NodeId → Node φ → Prop} {f g : Fleet φ}

theorem empty : Every P (∅ : Fleet φ) := by
  intro id n h
  have hn : (∅ : Fleet φ).find? id = none := Std.ExtTreeMap.getElem?_empty
  rw [hn] at h
  cases h

theorem insert (h : f.Every P) {id : NodeId} {n : Node φ} (hn : P id n) :
    Every P { f with nodes := f.nodes.insert id n } := by
  intro i m hm
  rw [find?, Std.ExtTreeMap.getElem?_insert] at hm
  split at hm
  · next hc =>
    obtain rfl := Std.compare_eq_iff_eq.1 hc
    cases hm
    exact hn
  · exact h i m hm

theorem erase (h : f.Every P) (id : NodeId) (retired : Std.ExtTreeSet NodeId) :
    Every P { f with nodes := f.nodes.erase id, retired } := by
  intro i m hm
  rw [find?, Std.ExtTreeMap.getElem?_erase] at hm
  split at hm
  · cases hm
  · exact h i m hm

theorem map (h : f.Every P) {change : Node φ → Node φ} (keeps : ∀ id n, P id n → P id (change n)) :
    (f.map change).Every P := by
  intro id m hm
  rw [find?_map, Option.map_eq_some_iff] at hm
  obtain ⟨n, hn, rfl⟩ := hm
  exact keeps id n (h id n hn)

theorem modify (h : f.Every P) {id : NodeId} {change : Node φ → Node φ}
    (keeps : ∀ n, P id n → P id (change n)) : (f.modify id change).Every P := by
  intro i m hm
  rw [find?, Fleet.modify, Std.ExtTreeMap.getElem?_modify] at hm
  split at hm
  · next hc =>
    obtain rfl := Std.compare_eq_iff_eq.1 hc
    obtain ⟨n, hn, rfl⟩ := Option.map_eq_some_iff.1 hm
    exact keeps n (h id n hn)
  · exact h i m hm

theorem each (h : f.Every P) {act : Node φ → Checked (Node φ)} (he : f.each act = .ok g)
    (keeps : ∀ id n m, P id n → act n = .ok m → P id m) : g.Every P := by
  intro id m hm
  obtain ⟨missing, acted⟩ := find?_each he id
  cases hn : f.find? id with
  | none =>
    rw [missing hn] at hm
    cases hm
  | some n =>
    obtain ⟨m', ha, hm'⟩ := acted n hn
    obtain rfl := Option.some.inj (hm.symm.trans hm')
    exact keeps id n m (h id n hn) ha

theorem revise (h : f.Every P) {id : NodeId} {act : Node φ → Checked (Node φ)}
    (hr : f.revise id act = .ok g) (keeps : ∀ n m, P id n → act n = .ok m → P id m) :
    g.Every P := by
  rw [Fleet.revise] at hr
  split at hr
  · cases hr
    exact h
  · next n hn =>
    obtain ⟨m, hm, rfl⟩ := Checked.map_eq_ok.1 hr
    exact h.insert (keeps n m (h id n hn) hm)

end Every

end Fleet

namespace Node

variable {φ : Type} {n m : Node φ} {now : Time}

theorem id_stop (h : n.stop now = .ok m) : m.id = n.id := by
  obtain ⟨uptime, rfl⟩ := stop_eq_ok h
  rfl

theorem id_crash (h : n.crash now = .ok m) : m.id = n.id := by
  obtain ⟨uptime, rfl⟩ := crash_eq_ok h
  rfl

variable [Firmware φ]

theorem id_call {c : Callback} (h : n.call now c = .ok m) : m.id = n.id := by
  obtain ⟨device, sent, rfl⟩ := call_eq_ok h
  rfl

theorem id_boot (h : n.boot now = .ok m) : m.id = n.id := by
  obtain ⟨device, sent, rfl⟩ := boot_eq_ok h
  rfl

theorem id_reboot (h : n.reboot now = .ok m) : m.id = n.id := by
  obtain ⟨device, sent, uptime, rfl⟩ := reboot_eq_ok h
  rfl

theorem id_bootIfStopped (h : (if n.isRunning then .ok n else n.boot now) = .ok m) :
    m.id = n.id := by
  split at h
  · cases h
    rfl
  · exact id_boot h

theorem id_step {op : LifecycleOp} {r : Option NodeError × Node φ} (h : n.step op = .ok r) :
    r.2.id = n.id := by
  cases op with
  | start now =>
    rw [step] at h
    cases hr : n.isRunning with
    | true =>
      rw [start_of_running hr] at h
      cases h
      rfl
    | false =>
      rw [start_of_stopped hr] at h
      cases hb : n.boot now with
      | error fault =>
        rw [hb] at h
        cases h
      | ok m =>
        rw [hb] at h
        cases h
        exact id_boot hb
  | stop now =>
    obtain ⟨m, hm, h⟩ := Checked.bind_eq_ok.1 h
    cases h
    exact id_stop hm
  | crash now =>
    obtain ⟨m, hm, h⟩ := Checked.bind_eq_ok.1 h
    cases h
    exact id_crash hm
  | restart now =>
    rw [step, run_restart] at h
    obtain ⟨outcome, hb, h⟩ := Checked.bind_eq_ok.1 h
    obtain ⟨m, hm, rfl⟩ := Checked.map_eq_ok.1 hb
    cases h
    exact id_reboot hm

end Node

namespace Fleet

variable {φ : Type}

def Keyed (f : Fleet φ) : Prop := f.Every fun id n => n.id = id

namespace Keyed

variable {f g : Fleet φ}

theorem put (h : f.Keyed) (n : Node φ) : (f.put n).Keyed := Every.insert h rfl

theorem add (h : f.Keyed) {id : NodeId} (ha : f.add id = .ok g) : g.Keyed := by
  rw [Fleet.add] at ha
  split at ha
  · cases ha
  · cases ha
    exact h.put _

theorem create (h : f.Keyed) {catalogue : Catalogue φ} {spec : NodeSpec}
    (hc : f.create catalogue spec = .ok g) : g.Keyed := by
  rw [Fleet.create] at hc
  split at hc
  · cases hc
  · cases hc
    exact h.put _
  · split at hc
    · cases hc
    · cases hc
      exact h.put _

theorem each (h : f.Keyed) {act : Node φ → Checked (Node φ)} (he : f.each act = .ok g)
    (keeps : ∀ n m, act n = .ok m → m.id = n.id) : g.Keyed :=
  Every.each h he fun _ n m hn ha => (keeps n m ha).trans hn

theorem revise (h : f.Keyed) {id : NodeId} {act : Node φ → Checked (Node φ)}
    (hr : f.revise id act = .ok g) (keeps : ∀ n m, act n = .ok m → m.id = n.id) : g.Keyed :=
  Every.revise h hr fun n m hn ha => (keeps n m ha).trans hn

theorem observe (h : f.Keyed) (now : Time) : (f.observe now).Keyed := h

theorem stopAll (h : f.Keyed) {now : Time} {stopped : Nat}
    (hs : f.stopAll now = .ok (stopped, g)) : g.Keyed := by
  obtain ⟨g', he, hs⟩ := Checked.bind_eq_ok.1 hs
  cases hs
  exact (h.observe now).each he fun _ _ => Node.id_stop

theorem remove (h : f.Keyed) {id : NodeId} {now : Time} {removed : Option (Node φ)}
    (hr : f.remove id now = .ok (removed, g)) : g.Keyed := by
  rw [Fleet.remove] at hr
  split at hr
  · cases hr
    exact h.observe now
  · obtain ⟨m, hm, hr⟩ := Checked.bind_eq_ok.1 hr
    cases hr
    exact Every.erase (h.observe now) id _

theorem assignGroups (h : f.Keyed) (groups : Groups) : (f.assignGroups groups).Keyed :=
  assignGroups_induction h (fun _ _ _ h => Every.modify h fun _ hn => hn) groups

variable [Firmware φ]

theorem startAll (h : f.Keyed) {now : Time} {started : Nat}
    (hs : f.startAll now = .ok (started, g)) : g.Keyed := by
  obtain ⟨g', he, hs⟩ := Checked.bind_eq_ok.1 hs
  cases hs
  exact (h.observe now).each he fun _ _ => Node.id_bootIfStopped

theorem step (h : f.Keyed) {op : FleetOp φ} (hs : f.step op = .ok g) : g.Keyed := by
  cases op with
  | add id =>
    cases hs
    cases ha : f.add id with
    | error e => exact h
    | ok g => exact h.add ha
  | create catalogue spec =>
    cases hs
    cases hc : f.create catalogue spec with
    | error e => exact h
    | ok g => exact h.create hc
  | remove id now =>
    obtain ⟨r, hr, rfl⟩ := Checked.map_eq_ok.1 hs
    exact h.remove hr
  | startAll now =>
    obtain ⟨r, hr, rfl⟩ := Checked.map_eq_ok.1 hs
    exact h.startAll hr
  | stopAll now =>
    obtain ⟨r, hr, rfl⟩ := Checked.map_eq_ok.1 hs
    exact h.stopAll hr
  | shutdown =>
    obtain ⟨r, hr, rfl⟩ := Checked.map_eq_ok.1 hs
    exact h.stopAll hr
  | call id op =>
    refine h.revise hs fun n m hm => ?_
    obtain ⟨r, hr, rfl⟩ := Checked.map_eq_ok.1 hm
    exact Node.id_step hr
  | adjustTime id now offset => exact h.revise hs fun _ _ => Node.id_call

theorem deliver (h : f.Keyed) {now : Time} {m : Message} {reached : Bool}
    (hd : f.deliver now m = .ok (reached, g)) : g.Keyed := by
  rw [Fleet.deliver] at hd
  split at hd
  · cases hd
    exact h
  · next n hn =>
    obtain ⟨received, hr, hd⟩ := Checked.bind_eq_ok.1 hd
    cases received with
    | none =>
      cases hd
      exact h
    | some n' =>
      cases hd
      obtain ⟨device, sent, rfl⟩ := (Node.deliver_eq_ok hr).2 n' rfl
      exact Every.insert h (h _ n hn)

theorem deliverAll (h : f.Keyed) {now : Time} {ms : List Message} {reached : List Bool}
    (hd : deliverAll now ms f = .ok (reached, g)) : g.Keyed := by
  induction ms generalizing f reached with
  | nil =>
    cases hd
    exact h
  | cons m ms ih =>
    obtain ⟨⟨r, f'⟩, hm, hd⟩ := Checked.bind_eq_ok.1 hd
    obtain ⟨⟨rs, f''⟩, hms, hd⟩ := Checked.bind_eq_ok.1 hd
    cases hd
    exact ih (h.deliver hm) hms

theorem refreshAll (h : f.Keyed) {now : Time} {cuts : Cuts}
    (hr : f.refreshAll now cuts = .ok g) : g.Keyed := by
  rw [Fleet.refreshAll] at hr
  refine h.each hr fun n m hm => ?_
  split at hm
  · obtain ⟨device, sent, rfl⟩ := Node.refreshPeers_eq_ok hm
    rfl
  · cases hm
    rfl

theorem tickAll (h : f.Keyed) {now : Time} (ht : f.tickAll now = .ok g) : g.Keyed :=
  h.each ht fun _ _ => Node.id_call

theorem effect {mesh mesh' : Mesh φ} (h : mesh.fleet.Keyed) {e : Event} {now : Time}
    (he : e.effect now mesh = .ok mesh') : mesh'.fleet.Keyed := by
  cases e with
  | start id =>
    obtain ⟨fleet, hr, rfl⟩ := Checked.map_eq_ok.1 he
    exact h.revise hr fun _ _ => Node.id_bootIfStopped
  | stop id graceful =>
    obtain ⟨fleet, hr, rfl⟩ := Checked.map_eq_ok.1 he
    exact h.revise hr fun _ _ => Node.id_stop
  | crash id =>
    obtain ⟨fleet, hr, rfl⟩ := Checked.map_eq_ok.1 he
    exact h.revise hr fun _ _ => Node.id_crash
  | restart id =>
    obtain ⟨fleet, hr, rfl⟩ := Checked.map_eq_ok.1 he
    exact h.revise hr fun _ _ => Node.id_reboot
  | drop l | restore l =>
    cases he
    exact h
  | degrade l latency loss =>
    rw [Event.effect] at he
    split at he
    · cases he
      exact h
    · cases he
      exact h
  | partition groups =>
    cases he
    exact h.assignGroups groups
  | heal =>
    cases he
    exact Every.map h fun _ _ hn => hn

end Keyed

end Fleet

end MeshNet
