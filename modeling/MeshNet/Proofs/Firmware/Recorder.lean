import MeshNet.Proofs.Firmware.Transport
import MeshNet.Proofs.Fleet.Nodewise

namespace MeshNet

structure Call where
  view : View
  callback : Callback
  sends : List Outgoing

structure Recorder (φ : Type) where
  firmware : φ
  calls : List Call := []

namespace Recorder

variable {φ : Type}

def blank (firmware : φ) : Recorder φ := { firmware }

variable [Firmware φ]

instance : Firmware (Recorder φ) where
  name r := Firmware.name r.firmware
  version r := Firmware.version r.firmware
  react r view callback :=
    (fun reaction => {
      state := ⟨reaction.state, r.calls ++ [⟨view, callback, reaction.sends⟩]⟩
      sends := reaction.sends }) <$> Firmware.react r.firmware view callback

def morphism : Firmware.Morphism (Recorder φ) φ where
  state := firmware
  react s v c := by
    change Firmware.react s.firmware v c = _ <$> _ <$> Firmware.react s.firmware v c
    cases Firmware.react s.firmware v c <;> rfl

end Recorder

namespace Node

variable {φ : Type}

def calls (n : Node (Recorder φ)) : List Call := (n.device.map (·.firmware.calls)).getD []

structure Hears (n m : Node (Recorder φ)) (cs : List Callback) : Prop where
  equipped : m.device.isSome = n.device.isSome
  running : m.isRunning = n.isRunning
  calls : ∃ chunk, m.calls = n.calls ++ chunk ∧
    chunk.map (·.callback) = if n.device.isSome ∧ n.isRunning then cs else []

namespace Hears

variable {n m k : Node (Recorder φ)} {cs ds : List Callback}

theorem of_same (device : m.device = n.device) (running : m.isRunning = n.isRunning) :
    n.Hears m [] where
  equipped := by rw [device]
  running := running
  calls := ⟨[], by rw [Node.calls, device, Node.calls, List.append_nil], by simp⟩

theorem trans (h : n.Hears m cs) (h' : m.Hears k ds) : n.Hears k (cs ++ ds) := by
  obtain ⟨first, hm, heard⟩ := h.calls
  obtain ⟨second, hk, heard'⟩ := h'.calls
  refine ⟨h'.equipped.trans h.equipped, h'.running.trans h.running, first ++ second, ?_, ?_⟩
  · rw [hk, hm, List.append_assoc]
  · rw [h.equipped, h.running] at heard'
    rw [List.map_append, heard, heard']
    split
    · rfl
    · rfl

end Hears

variable [Firmware φ] {n m : Node (Recorder φ)} {now : Time}

theorem call_recorded {c : Callback} (h : n.call now c = .ok m) {device : Device (Recorder φ)}
    {session : Session} (hd : n.device = some device) (hs : n.session = some session) :
    ∃ sends, m.isRunning ∧ m.device.isSome ∧ m.outbox = session.outbox ++ sends ∧
      m.calls = n.calls ++ [⟨⟨n.id, now, device.settings, session.peers⟩, c, sends⟩] := by
  rw [call, hd, hs] at h
  obtain ⟨reaction, hr, h⟩ := Checked.bind_eq_ok.1 h
  obtain ⟨answer, -, rfl⟩ := Checked.map_eq_ok.1 hr
  cases h
  exact ⟨answer.sends, rfl, rfl, rfl, by rw [calls, calls, hd]; rfl⟩

theorem call_hears {c : Callback} (h : n.call now c = .ok m) : n.Hears m [c] := by
  cases hd : n.device with
  | none =>
    rw [call, hd] at h
    cases h
    exact ⟨rfl, rfl, [], (List.append_nil _).symm, by simp [hd]⟩
  | some device =>
    cases hs : n.session with
    | none =>
      rw [call, hd, hs] at h
      cases h
      exact ⟨rfl, rfl, [], (List.append_nil _).symm, by simp [isRunning, hs]⟩
    | some session =>
      obtain ⟨sends, running, equipped, -, called⟩ := call_recorded h hd hs
      refine ⟨by rw [equipped, hd]; rfl, by rw [running, isRunning, hs]; rfl, _, called, ?_⟩
      simp [hd, isRunning, hs]

theorem boot_hears (h : n.boot now = .ok m) :
    m.isRunning ∧ m.device.isSome = n.device.isSome ∧
      if n.device.isSome then
        ∃ call, m.calls = n.calls ++ [call] ∧ call.callback = .setup ∧ call.view.peers = [] ∧
          m.outbox = call.sends
      else m.calls = n.calls := by
  cases hd : n.device with
  | none =>
    rw [boot, call] at h
    simp only [hd] at h
    cases h
    exact ⟨rfl, rfl, by rw [if_neg (by simp), calls, calls, hd]⟩
  | some device =>
    obtain ⟨sends, running, equipped, outbox, called⟩ := call_recorded h hd rfl
    refine ⟨running, equipped, ?_⟩
    rw [Option.isSome_some, if_pos rfl]
    exact ⟨_, called, rfl, rfl, outbox⟩

theorem take_hears {message : Message} (h : n.take now message = .ok m) :
    n.Hears m [.receive message.link.source message.payload] ∧ m.peers = n.peers := by
  obtain ⟨received, hd, rfl⟩ := Checked.map_eq_ok.1 h
  rw [deliver] at hd
  split at hd
  · obtain ⟨k, hc, hd⟩ := Checked.map_eq_ok.1 hd
    cases hd
    have heard := call_hears hc
    obtain ⟨device, sent, rfl⟩ := call_eq_ok hc
    refine ⟨⟨heard.equipped, heard.running, heard.calls⟩, ?_⟩
    rw [Option.getD_some, peers, Option.map_map]
    rfl
  · next stopped =>
    cases hd
    exact ⟨⟨rfl, rfl, [], (List.append_nil _).symm, by simp [stopped]⟩, rfl⟩

theorem takeAll_hears {mail : List Message} (h : n.takeAll now mail = .ok m) :
    n.Hears m (mail.map fun message => .receive message.link.source message.payload) ∧
      m.peers = n.peers := by
  induction mail generalizing n with
  | nil =>
    cases h
    exact ⟨.of_same rfl rfl, rfl⟩
  | cons message mail ih =>
    rw [takeAll, List.foldlM_cons] at h
    obtain ⟨k, ht, h⟩ := Checked.bind_eq_ok.1 h
    obtain ⟨first, kept⟩ := take_hears ht
    obtain ⟨rest, kept'⟩ := ih h
    exact ⟨first.trans rest, kept'.trans kept⟩

def news (before peers : List NodeId) : List Callback :=
  if peers = before then []
  else (newPeers before peers).map .newConnection ++ [.changedConnections]

theorem foldlM_call_hears {peers : List NodeId}
    (h : (peers.foldlM (fun n peer => n.call now (.newConnection peer)) n : Checked _) = .ok m) :
    n.Hears m (peers.map .newConnection) := by
  induction peers generalizing n with
  | nil =>
    cases h
    exact .of_same rfl rfl
  | cons peer peers ih =>
    rw [List.foldlM_cons] at h
    obtain ⟨k, hc, h⟩ := Checked.bind_eq_ok.1 h
    exact (call_hears hc).trans (ih h)

theorem refreshPeers_hears {peers : List NodeId} (h : n.refreshPeers now peers = .ok m) :
    n.Hears m (news n.peers m.peers) := by
  cases hs : n.session with
  | none =>
    rw [refreshPeers, hs] at h
    cases h
    rw [news, if_pos rfl]
    exact .of_same rfl rfl
  | some session =>
    have before : n.peers = session.peers := by rw [Node.peers, hs]; rfl
    have after : m.peers = peers := by
      obtain ⟨device, sent, rfl⟩ := refreshPeers_eq_ok h
      rw [Node.peers, hs]
      rfl
    simp only [refreshPeers, hs] at h
    rw [before, after, news]
    split at h
    · next unchanged =>
      cases h
      rw [if_pos unchanged]
      exact .of_same rfl rfl
    · next changed =>
      rw [if_neg changed]
      obtain ⟨k, hf, h⟩ := Checked.bind_eq_ok.1 h
      have first : n.Hears { n with session := some { session with peers } } [] :=
        .of_same rfl (by rw [isRunning, isRunning, hs]; rfl)
      exact first.trans ((foldlM_call_hears hf).trans (call_hears h))

theorem attend_hears {mail : List Message} {peers : List NodeId}
    (h : n.attend now mail peers = .ok m) :
    n.Hears m ((mail.map fun message => .receive message.link.source message.payload) ++
      (news n.peers m.peers ++ [.tick])) := by
  obtain ⟨a, ht, h⟩ := Checked.bind_eq_ok.1 h
  obtain ⟨b, hr, h⟩ := Checked.bind_eq_ok.1 h
  obtain ⟨c, hc, h⟩ := Checked.bind_eq_ok.1 h
  cases h
  obtain ⟨received, before⟩ := takeAll_hears ht
  have after : c.flush.peers = b.peers := by
    obtain ⟨device, sent, rfl⟩ := call_eq_ok hc
    rw [Node.peers, flush, Node.peers, Option.map_map, Option.map_map]
    rfl
  have flushed : c.Hears c.flush [] :=
    .of_same rfl (by rw [isRunning, flush, isRunning, Option.isSome_map])
  have ticked := (call_hears hc).trans flushed
  rw [← before, after]
  exact received.trans ((refreshPeers_hears hr).trans ticked)

end Node

end MeshNet
