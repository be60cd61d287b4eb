import MeshNet.Firmware.Catalogue

namespace MeshNet

def Prompt (payload : Payload) : Prop :=
  (∃ n, payload = EchoClient.request n) ∨ ∃ id, payload = Beacon.greeting id

theorem Payload.ofText_append (s t : String) : ofText (s ++ t) = ofText s ++ ofText t := by
  rw [ofText, String.toByteArray_append, ByteArray.data_append, Array.toList_append]
  rfl

theorem Prompt.isEcho_eq_false {payload : Payload} (h : Prompt payload) :
    isEcho payload = false := by
  rcases h with ⟨n, rfl⟩ | ⟨id, rfl⟩
  · rw [EchoClient.request, Payload.ofText_append]
    rfl
  · rw [Beacon.greeting, Payload.ofText_append]
    rfl

structure Score where
  serves : Bool := false
  echoed : Nat := 0
  answered : Nat := 0
deriving DecidableEq

def Score.replies (s : Score) (sender : NodeId) (payload : Payload) : List Outgoing :=
  if s.serves && !isEcho payload then [⟨sender, echoOf payload⟩] else []

namespace Score

variable {s : Score} {sender : NodeId} {payload : Payload}

theorem mem_replies {o : Outgoing} : o ∈ s.replies sender payload ↔
    s.serves ∧ isEcho payload = false ∧ o = ⟨sender, echoOf payload⟩ := by
  rw [replies, List.mem_ite_nil_right, List.mem_singleton, Bool.and_eq_true, Bool.not_eq_true',
    and_assoc]

theorem length_replies_le (s : Score) (sender : NodeId) (payload : Payload) :
    (s.replies sender payload).length ≤ if !isEcho payload then 1 else 0 := by
  rw [replies]
  cases isEcho payload with
  | true => simp
  | false => cases s.serves <;> simp

theorem countP_replies (s : Score) (sender : NodeId) (payload : Payload) :
    (s.replies sender payload).countP (isEcho ·.payload) = (s.replies sender payload).length := by
  rw [List.countP_eq_length]
  intro o ho
  obtain ⟨-, -, rfl⟩ := mem_replies.mp ho
  exact isEcho_echoOf payload

end Score

def Builtin.score : Builtin → Score
  | echoServer s => { serves := true, echoed := s.echoed }
  | echoClient c => { answered := c.responsesReceived }
  | beacon _ => {}

/-- Whether firmware hears about the mesh only, and has no reason to speak. -/
def Callback.idle : Callback → Bool
  | tick | receive _ _ => false
  | setup | newConnection _ | changedConnections | timeAdjusted _ => true

namespace Builtin

variable {b : Builtin} {v : View} {r : Reaction Builtin}

theorem react_idle {c : Callback} (idle : c.idle) (h : Firmware.react b v c = .ok r) :
    r.state.score = b.score ∧ r.sends = [] := by
  cases c with
  | tick | receive sender payload => cases idle
  | setup =>
    cases b with
    | echoServer s =>
      cases h
      exact ⟨rfl, rfl⟩
    | echoClient s | beacon s =>
      obtain ⟨reaction, hr, rfl⟩ := Checked.map_eq_ok.mp h
      obtain ⟨timer, -, hr⟩ := Checked.bind_eq_ok.mp hr
      cases hr
      exact ⟨rfl, rfl⟩
  | newConnection peer | changedConnections | timeAdjusted offset =>
    cases b with
    | echoServer s | echoClient s | beacon s =>
      cases h
      exact ⟨rfl, rfl⟩

theorem react_tick (h : Firmware.react b v .tick = .ok r) :
    r.state.score = b.score ∧ ∀ o ∈ r.sends, Prompt o.payload := by
  have broadcast (payload : Payload) (prompt : Prompt payload) :
      ∀ o ∈ v.broadcast payload, Prompt o.payload := by
    intro o ho
    obtain ⟨peer, -, rfl⟩ := List.mem_map.mp ho
    exact prompt
  cases b with
  | echoServer s =>
    cases h
    exact ⟨rfl, nofun⟩
  | echoClient s =>
    obtain ⟨reaction, hr, rfl⟩ := Checked.map_eq_ok.mp h
    have prompt : Prompt (EchoClient.request s.requestsSent) := .inl ⟨_, rfl⟩
    change s.react v .tick = _ at hr
    rw [EchoClient.react] at hr
    split at hr
    · obtain ⟨timer, -, hr⟩ := Checked.bind_eq_ok.mp hr
      cases hr
      refine ⟨rfl, ?_⟩
      rw [Reaction.map]
      split
      · exact fun o ho => List.mem_singleton.mp ho ▸ prompt
      · exact broadcast _ prompt
    · cases hr
      exact ⟨rfl, nofun⟩
  | beacon s =>
    obtain ⟨reaction, hr, rfl⟩ := Checked.map_eq_ok.mp h
    change s.react v .tick = _ at hr
    rw [Beacon.react] at hr
    split at hr
    · obtain ⟨timer, -, hr⟩ := Checked.bind_eq_ok.mp hr
      cases hr
      exact ⟨rfl, broadcast _ (.inr ⟨v.self, rfl⟩)⟩
    · cases hr
      exact ⟨rfl, nofun⟩

theorem react_receive {sender : NodeId} {payload : Payload}
    (h : Firmware.react b v (.receive sender payload) = .ok r) :
    r.state.score.serves = b.score.serves ∧ r.sends = b.score.replies sender payload ∧
      r.state.score.echoed = b.score.echoed + r.sends.length ∧
      r.state.score.answered ≤ b.score.answered + if isEcho payload then 1 else 0 := by
  cases b with
  | echoServer s =>
    cases h
    simp only [EchoServer.react, Score.replies, score, Reaction.map]
    split
    · next echo => simp [echo]
    · next prompt => simp [prompt]
  | echoClient s =>
    cases h
    refine ⟨rfl, rfl, rfl, ?_⟩
    simp only [score, Reaction.map]
    split
    · exact Nat.le_refl _
    · exact Nat.le_refl _
  | beacon s =>
    cases h
    exact ⟨rfl, rfl, rfl, Nat.zero_le _⟩

end Builtin

end MeshNet
