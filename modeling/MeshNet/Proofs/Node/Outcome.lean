import MeshNet.Node.Basic

namespace MeshNet.Node

variable {φ : Type}

theorem stop_of_stopped {n : Node φ} (h : n.session = none) (now : Time) : n.stop now = .ok n := by
  rw [stop, h]

theorem stop_eq (n : Node φ) (now : Time) :
    n.stop now = (fun uptime => { n with
      session := none
      metrics := { n.metrics with uptime } }) <$> n.totalUptime now := by
  rw [stop, totalUptime]
  split
  · next hs => rw [Checked.map_ok, ← hs]
  · rfl

theorem stop_eq_ok {n m : Node φ} {now : Time} (h : n.stop now = .ok m) :
    ∃ uptime, m = { n with session := none, metrics := { n.metrics with uptime } } := by
  rw [stop_eq] at h
  obtain ⟨uptime, -, rfl⟩ := Checked.map_eq_ok.1 h
  exact ⟨uptime, rfl⟩

theorem crash_eq (n : Node φ) (now : Time) :
    n.crash now = (fun uptime => { n with
      session := none
      metrics := { n.metrics with
        uptime
        crashes := n.metrics.crashes + if n.isRunning then 1 else 0 } }) <$> n.totalUptime now := by
  rw [crash]
  split
  · next hr =>
    rw [stop_eq]
    cases n.totalUptime now with
    | error fault => rfl
    | ok uptime => rfl
  · next hr =>
    have hs : n.session = none := Option.not_isSome_iff_eq_none.1 hr
    have ht : n.totalUptime now = .ok n.metrics.uptime := by rw [totalUptime, hs]
    rw [ht, Checked.map_ok, ← hs]
    rfl

theorem crash_eq_ok {n m : Node φ} {now : Time} (h : n.crash now = .ok m) :
    ∃ uptime, m = { n with
      session := none
      metrics := { n.metrics with
        uptime
        crashes := n.metrics.crashes + if n.isRunning then 1 else 0 } } := by
  rw [crash_eq] at h
  obtain ⟨uptime, -, rfl⟩ := Checked.map_eq_ok.1 h
  exact ⟨uptime, rfl⟩

theorem stop_clears {n m : Node φ} {now : Time} (h : n.stop now = .ok m) :
    m.isRunning = false ∧ m.peers = [] ∧ m.outbox = [] := by
  obtain ⟨uptime, rfl⟩ := stop_eq_ok h
  exact ⟨rfl, rfl, rfl⟩

theorem crash_clears {n m : Node φ} {now : Time} (h : n.crash now = .ok m) :
    m.isRunning = false ∧ m.peers = [] ∧ m.outbox = [] := by
  obtain ⟨uptime, rfl⟩ := crash_eq_ok h
  exact ⟨rfl, rfl, rfl⟩

variable [Firmware φ]

theorem call_eq_ok {n m : Node φ} {now : Time} {c : Callback} (h : n.call now c = .ok m) :
    ∃ device sent, m = { n with
      device
      session := n.session.map fun s => { s with outbox := s.outbox ++ sent } } := by
  rw [call] at h
  split at h
  · next device session hd hs =>
    obtain ⟨reaction, -, h⟩ := Checked.bind_eq_ok.1 h
    cases h
    exact ⟨_, reaction.sends, by rw [hs]; rfl⟩
  · cases h
    have kept : (n.session.map fun s => { s with outbox := s.outbox ++ [] }) = n.session := by
      cases n.session <;> simp
    exact ⟨n.device, [], by rw [kept]⟩

theorem boot_eq_ok {n m : Node φ} {now : Time} (h : n.boot now = .ok m) :
    ∃ device sent, m = { n with device, session := some { startedAt := now, outbox := sent } } := by
  obtain ⟨device, sent, rfl⟩ := call_eq_ok h
  exact ⟨device, sent, rfl⟩

def SetupSucceeds (n : Node φ) (now : Time) : Prop :=
  ∀ device ∈ n.device,
    (Firmware.react device.firmware ⟨n.id, now, device.settings, []⟩ .setup).isOk

instance (n : Node φ) (now : Time) : Decidable (n.SetupSucceeds now) :=
  inferInstanceAs (Decidable (∀ device ∈ n.device, _))

theorem exists_boot {n : Node φ} {now : Time} (h : n.SetupSucceeds now) :
    ∃ m, n.boot now = .ok m := by
  rw [boot, call]
  cases hd : n.device with
  | none => exact ⟨_, rfl⟩
  | some device =>
    have succeeds := h device hd
    cases hr : Firmware.react device.firmware ⟨n.id, now, device.settings, []⟩ .setup with
    | error fault => rw [hr] at succeeds; cases succeeds
    | ok reaction =>
      simp only [hr]
      exact ⟨_, rfl⟩

theorem start_of_running {n : Node φ} (h : n.isRunning) (now : Time) :
    (n.start now).run = .ok (.error (.alreadyRunning n.id)) := by
  rw [start, if_pos h]
  rfl

theorem start_of_stopped {n : Node φ} (h : n.isRunning = false) (now : Time) :
    (n.start now).run = Except.ok <$> n.boot now := by
  rw [start, if_neg (by simp [h])]
  rfl

def reboot (n : Node φ) (now : Time) : Checked (Node φ) := do
  (← n.stop now).boot now

theorem run_restart (n : Node φ) (now : Time) :
    (n.restart now).run = Except.ok <$> n.reboot now := by
  rw [restart, reboot]
  cases hs : n.stop now with
  | error fault => rfl
  | ok m => exact start_of_stopped (stop_clears hs).1 now

theorem reboot_eq_ok {n m : Node φ} {now : Time} (h : n.reboot now = .ok m) :
    ∃ device sent uptime, m = { n with
      device
      session := some { startedAt := now, outbox := sent }
      metrics := { n.metrics with uptime } } := by
  obtain ⟨n', hs, hb⟩ := Checked.bind_eq_ok.1 h
  obtain ⟨uptime, rfl⟩ := stop_eq_ok hs
  obtain ⟨device, sent, rfl⟩ := boot_eq_ok hb
  exact ⟨device, sent, uptime, rfl⟩

theorem foldlM_call_eq_ok {n m : Node φ} {now : Time} {peers : List NodeId}
    (h : (peers.foldlM (fun n peer => n.call now (.newConnection peer)) n : Checked _) = .ok m) :
    ∃ device sent, m = { n with
      device
      session := n.session.map fun s => { s with outbox := s.outbox ++ sent } } := by
  induction peers generalizing n with
  | nil =>
    cases h
    exact ⟨m.device, [], by simp⟩
  | cons peer peers ih =>
    rw [List.foldlM_cons] at h
    obtain ⟨n', hc, h⟩ := Checked.bind_eq_ok.1 h
    obtain ⟨device, sent, rfl⟩ := call_eq_ok hc
    obtain ⟨device', sent', rfl⟩ := ih h
    exact ⟨device', sent ++ sent', by simp [Function.comp_def]⟩

theorem refreshPeers_eq_ok {n m : Node φ} {now : Time} {peers : List NodeId}
    (h : n.refreshPeers now peers = .ok m) :
    ∃ device sent, m = { n with
      device
      session := n.session.map fun s => { s with peers, outbox := s.outbox ++ sent } } := by
  rw [refreshPeers] at h
  split at h
  · next hs =>
    cases h
    exact ⟨n.device, [], by rw [hs, Option.map_none, ← hs]⟩
  · next session hs =>
    split at h
    · next hp =>
      cases h
      have kept : (n.session.map fun s => { s with peers, outbox := s.outbox ++ [] }) =
          n.session := by
        simp [hs, hp]
      exact ⟨n.device, [], by rw [kept]⟩
    · obtain ⟨n', hf, h⟩ := Checked.bind_eq_ok.1 h
      obtain ⟨device, sent, rfl⟩ := foldlM_call_eq_ok hf
      obtain ⟨device', sent', rfl⟩ := call_eq_ok h
      exact ⟨device', sent ++ sent', by simp [hs]⟩

theorem deliver_eq_ok {n : Node φ} {now : Time} {message : Message} {received : Option (Node φ)}
    (h : n.deliver now message = .ok received) :
    received.isSome = n.isRunning ∧ ∀ m ∈ received, ∃ device sent, m = { n with
      device
      session := n.session.map fun s => { s with outbox := s.outbox ++ sent }
      metrics := n.metrics.receive message.payload } := by
  rw [deliver] at h
  split at h
  · next hr =>
    obtain ⟨m, hc, h⟩ := Checked.map_eq_ok.1 h
    cases h
    refine ⟨hr.symm, fun _ hm => ?_⟩
    cases hm
    exact call_eq_ok hc
  · next hr =>
    cases h
    exact ⟨(Bool.eq_false_iff.2 hr).symm, nofun⟩

end MeshNet.Node
