import MeshNet.Proofs.Firmware.Announcement

namespace MeshNet

variable {φ : Type}

def Ascending (peers : List NodeId) : Prop := peers.Pairwise fun a b => a.val < b.val

def Upheld [Firmware φ] (P : NodeId → Settings → φ → Prop) : Prop :=
  ∀ (v : View) (c : Callback) (s : φ) (r : Reaction φ), Ascending v.peers →
    P v.self v.settings s → Firmware.react s v c = .ok r → P v.self v.settings r.state

namespace Node

variable {P : NodeId → Settings → φ → Prop} {n m : Node φ} {now : Time}

structure Holds (P : NodeId → Settings → φ → Prop) (n : Node φ) : Prop where
  peers : Ascending n.peers
  firmware : ∀ device, n.device = some device → P n.id device.settings device.firmware

namespace Holds

theorem stop (h : n.Holds P) (hs : n.stop now = .ok m) : m.Holds P := by
  obtain ⟨uptime, rfl⟩ := stop_eq_ok hs
  exact ⟨.nil, h.firmware⟩

theorem crash (h : n.Holds P) (hc : n.crash now = .ok m) : m.Holds P := by
  obtain ⟨uptime, rfl⟩ := crash_eq_ok hc
  exact ⟨.nil, h.firmware⟩

theorem flush (h : n.Holds P) : n.flush.Holds P := by
  refine ⟨?_, h.firmware⟩
  rw [Node.peers, Node.flush, Option.map_map]
  exact h.peers

variable [Firmware φ]

theorem call (h : n.Holds P) (upheld : Upheld P) {c : Callback} (hc : n.call now c = .ok m) :
    m.Holds P := by
  rw [Node.call] at hc
  split at hc
  · next device session hd hs =>
    obtain ⟨reaction, hr, hc⟩ := Checked.bind_eq_ok.1 hc
    cases hc
    have shown : Ascending session.peers := by
      have peers := h.peers
      rwa [Node.peers, hs] at peers
    refine ⟨shown, fun changed he => ?_⟩
    cases he
    exact upheld _ c device.firmware reaction shown (h.firmware device hd) hr
  · cases hc
    exact h

theorem foldlM_call {peers : List NodeId} (h : n.Holds P) (upheld : Upheld P)
    (hf : (peers.foldlM (fun n peer => n.call now (.newConnection peer)) n : Checked _) = .ok m) :
    m.Holds P := by
  induction peers generalizing n with
  | nil =>
    cases hf
    exact h
  | cons peer peers ih =>
    rw [List.foldlM_cons] at hf
    obtain ⟨k, first, rest⟩ := Checked.bind_eq_ok.1 hf
    exact ih (h.call upheld first) rest

theorem boot (h : n.Holds P) (upheld : Upheld P) (hb : n.boot now = .ok m) : m.Holds P := by
  have begun : Holds P { n with session := some { startedAt := now } } := ⟨.nil, h.firmware⟩
  exact begun.call upheld hb

theorem reboot (h : n.Holds P) (upheld : Upheld P) (hr : n.reboot now = .ok m) : m.Holds P := by
  obtain ⟨stopped, hs, hb⟩ := Checked.bind_eq_ok.1 hr
  exact (h.stop hs).boot upheld hb

theorem wake (h : n.Holds P) (upheld : Upheld P) (hw : n.wake now = .ok m) : m.Holds P := by
  rw [Node.wake] at hw
  split at hw
  · cases hw
    exact h
  · exact h.boot upheld hw

theorem step (h : n.Holds P) (upheld : Upheld P) {op : LifecycleOp}
    (hs : (·.2) <$> n.step op = .ok m) : m.Holds P := by
  have done := step_eq_ok hs
  cases op with
  | start now => exact h.wake upheld done
  | stop now => exact h.stop done
  | crash now => exact h.crash done
  | restart now => exact h.reboot upheld done

theorem take (h : n.Holds P) (upheld : Upheld P) {message : Message}
    (ht : n.take now message = .ok m) : m.Holds P := by
  obtain ⟨received, hd, rfl⟩ := Checked.map_eq_ok.1 ht
  rw [deliver] at hd
  split at hd
  · obtain ⟨k, hc, hd⟩ := Checked.map_eq_ok.1 hd
    cases hd
    have counted : Holds P { n with metrics := n.metrics.receive message.payload } :=
      ⟨h.peers, h.firmware⟩
    exact counted.call upheld hc
  · cases hd
    exact h

theorem takeAll (h : n.Holds P) (upheld : Upheld P) {mail : List Message}
    (ht : n.takeAll now mail = .ok m) : m.Holds P := by
  induction mail generalizing n with
  | nil =>
    cases ht
    exact h
  | cons message mail ih =>
    rw [Node.takeAll, List.foldlM_cons] at ht
    obtain ⟨k, first, rest⟩ := Checked.bind_eq_ok.1 ht
    exact ih (h.take upheld first) rest

theorem refreshPeers (h : n.Holds P) (upheld : Upheld P) {peers : List NodeId}
    (hr : n.refreshPeers now peers = .ok m) (shown : Ascending m.peers) : m.Holds P := by
  cases hs : n.session with
  | none =>
    rw [Node.refreshPeers, hs] at hr
    cases hr
    exact h
  | some session =>
    have given : m.peers = peers := by
      obtain ⟨device, sent, rfl⟩ := refreshPeers_eq_ok hr
      rw [Node.peers, hs]
      rfl
    rw [given] at shown
    simp only [Node.refreshPeers, hs] at hr
    split at hr
    · cases hr
      exact h
    · obtain ⟨k, announced, last⟩ := Checked.bind_eq_ok.1 hr
      have met : Holds P { n with session := some { session with peers } } := ⟨shown, h.firmware⟩
      exact (met.foldlM_call upheld announced).call upheld last

theorem attend (h : n.Holds P) (upheld : Upheld P) {mail : List Message} {peers : List NodeId}
    (ha : n.attend now mail peers = .ok m) (shown : Ascending m.peers) : m.Holds P := by
  obtain ⟨a, ht, ha⟩ := Checked.bind_eq_ok.1 ha
  obtain ⟨b, hr, ha⟩ := Checked.bind_eq_ok.1 ha
  obtain ⟨c, hc, ha⟩ := Checked.bind_eq_ok.1 ha
  cases ha
  have last : c.flush.peers = b.peers := by
    obtain ⟨device, sent, rfl⟩ := call_eq_ok hc
    rw [Node.peers, Node.flush, Node.peers, Option.map_map, Option.map_map]
    rfl
  rw [last] at shown
  exact (((h.takeAll upheld ht).refreshPeers upheld hr shown).call upheld hc).flush

theorem event (h : n.Holds P) (upheld : Upheld P) {e : Event} {id : NodeId}
    (altered : e.Alters now id n m) : m.Holds P := by
  cases e with
  | start i => exact of_altered altered (h.wake upheld) h
  | stop i graceful => exact of_altered altered h.stop h
  | crash i => exact of_altered altered h.crash h
  | restart i => exact of_altered altered (h.reboot upheld) h
  | partition groups | heal =>
    obtain ⟨tag, rfl⟩ := altered
    exact ⟨h.peers, h.firmware⟩
  | drop l | restore l | degrade l latency loss =>
    cases altered
    exact h

theorem fleetOp (h : n.Holds P) (upheld : Upheld P) {op : FleetOp φ} {f : Fleet φ} {id : NodeId}
    (altered : op.Alters f id n m) : m.Holds P := by
  cases op with
  | add i | create catalogue spec | remove i now =>
    cases altered
    exact h
  | startAll now => exact h.wake upheld altered
  | stopAll now | shutdown => exact h.stop altered
  | call i op => exact of_altered altered (h.step upheld) h
  | adjustTime i now offset => exact of_altered altered (h.call upheld) h

end Holds

end Node

def MeshOp.Brings (P : NodeId → Settings → φ → Prop) : MeshOp φ → Prop
  | fleet (.create catalogue spec) =>
    ∀ (name : String) (firmware : φ), catalogue.entries[name]? = some firmware →
      P spec.id spec.settings firmware
  | _ => True

theorem FleetOp.Adds.holds {P : NodeId → Settings → φ → Prop} {op : FleetOp φ} {m : Node φ}
    (adds : op.Adds m) (brings : (MeshOp.fleet op).Brings P) : m.Holds P := by
  cases op with
  | add i =>
    obtain rfl := adds
    exact ⟨.nil, nofun⟩
  | create catalogue spec =>
    obtain rfl := adds
    refine ⟨.nil, fun device hd => ?_⟩
    obtain ⟨name, -, hd⟩ := Option.bind_eq_some_iff.1 hd
    obtain ⟨firmware, entry, rfl⟩ := Option.map_eq_some_iff.1 hd
    exact brings name firmware entry
  | remove i now | startAll now | stopAll now | shutdown | call i op | adjustTime i now offset =>
    cases adds

namespace Mesh

variable [Firmware φ] {P : NodeId → Settings → φ → Prop} {mesh mesh' : Mesh φ} {events : List Event}

theorem holds_step (upheld : Upheld P) (keyed : mesh.fleet.Keyed)
    (holds : mesh.fleet.Every fun _ n => n.Holds P) {op : MeshOp φ} (brings : op.Brings P)
    (h : mesh.step op = .ok (events, mesh')) : mesh'.fleet.Every fun _ n => n.Holds P := by
  intro id m hm
  cases hn : mesh.fleet.find? id with
  | none =>
    obtain ⟨added, rfl, adds⟩ := exists_adds h hn hm
    exact adds.holds brings
  | some n =>
    have before := holds id n hn
    cases op with
    | execute e now =>
      obtain ⟨⟨verdict, d⟩, hp, h⟩ := Checked.bind_eq_ok.1 h
      cases h
      rcases Event.eq_or_effect_of_perform hp with rfl | he
      · obtain rfl := Option.some.inj (hn.symm.trans hm)
        exact before
      · exact before.event upheld ((Event.effect_nodewise he).rel hn hm)
    | update now =>
      obtain ⟨⟨report, d⟩, hu, h⟩ := Checked.bind_eq_ok.1 h
      cases h
      obtain ⟨peers, attended⟩ := (update_nodewise hu).rel hn hm
      have shown := peersOf_update_ascending hu keyed id
      rw [Fleet.peersOf_of_find? hm] at shown
      exact before.attend upheld attended shown
    | network op =>
      cases h
      obtain rfl := Option.some.inj (hn.symm.trans hm)
      exact before
    | fleet op =>
      obtain ⟨fleet, hf, h⟩ := Checked.bind_eq_ok.1 h
      cases h
      exact before.fleetOp upheld (FleetOp.alters_of_step hf hn hm)

theorem holds_steps (upheld : Upheld P) (keyed : mesh.fleet.Keyed)
    (holds : mesh.fleet.Every fun _ n => n.Holds P) {ops : List (MeshOp φ)}
    (brings : ∀ op ∈ ops, op.Brings P) (h : steps ops mesh = .ok (events, mesh')) :
    mesh'.fleet.Every fun _ n => n.Holds P := by
  have kept := steps_keep (P := fun mesh => mesh.fleet.Keyed ∧ mesh.fleet.Every fun _ n => n.Holds P)
    (fun op hop mesh next first before ho =>
      ⟨keyed_step before.1 ho, holds_step upheld before.1 before.2 (brings op hop) ho⟩)
    ⟨keyed, holds⟩ h
  exact kept.2

end Mesh

end MeshNet
