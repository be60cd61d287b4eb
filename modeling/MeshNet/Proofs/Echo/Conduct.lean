import MeshNet.Proofs.Echo.Reaction
import MeshNet.Proofs.Fleet.Nodewise

namespace MeshNet.Node

def score (n : Node Builtin) : Score := (n.device.map (·.firmware.score)).getD {}

def pending (n : Node Builtin) : Nat := n.outbox.countP (isEcho ·.payload)

variable {n m k : Node Builtin} {now : Time}

theorem exists_of_serves (h : n.score.serves) :
    ∃ server settings, n.device = some { firmware := .echoServer server, settings } := by
  rw [score] at h
  cases hd : n.device with
  | none =>
    rw [hd] at h
    cases h
  | some device =>
    rw [hd] at h
    obtain ⟨firmware, settings⟩ := device
    cases firmware with
    | echoServer server => exact ⟨server, settings, rfl⟩
    | echoClient client | beacon beacon => cases h

theorem call_cases {c : Callback} (h : n.call now c = .ok m) :
    m = n ∧ (n.isRunning → n.device = none) ∨
      ∃ (b : Builtin) (v : View) (r : Reaction Builtin), Firmware.react b v c = .ok r ∧
        n.score = b.score ∧ m.score = r.state.score ∧ m.outbox = n.outbox ++ r.sends := by
  rw [call] at h
  split at h
  · next device session hd hs =>
    obtain ⟨r, hr, h⟩ := Checked.bind_eq_ok.mp h
    cases h
    refine .inr ⟨device.firmware, _, r, hr, ?_, rfl, ?_⟩
    · rw [score, hd]
      rfl
    · rw [outbox, outbox, hs]
      rfl
  · next absent =>
    cases h
    refine .inl ⟨rfl, fun running => ?_⟩
    obtain ⟨session, hs⟩ := Option.isSome_iff_exists.mp running
    cases hd : n.device with
    | none => rfl
    | some device => exact (absent device session hd hs).elim

theorem isRunning_call {c : Callback} (h : n.call now c = .ok m) : m.isRunning = n.isRunning := by
  obtain ⟨device, sent, rfl⟩ := call_eq_ok h
  rw [isRunning, Option.isSome_map, isRunning]

structure Idles (n m : Node Builtin) : Prop where
  running : m.isRunning = n.isRunning
  score : m.score = n.score
  outbox : m.outbox = n.outbox

namespace Idles

theorem refl (n : Node Builtin) : n.Idles n := ⟨rfl, rfl, rfl⟩

theorem trans (h : n.Idles m) (h' : m.Idles k) : n.Idles k :=
  ⟨h'.running.trans h.running, h'.score.trans h.score, h'.outbox.trans h.outbox⟩

theorem call {c : Callback} (idle : c.idle) (h : n.call now c = .ok m) : n.Idles m := by
  have running := isRunning_call h
  obtain ⟨rfl, -⟩ | ⟨b, v, r, hr, before, after, outbox⟩ := call_cases h
  · exact refl m
  · obtain ⟨score, sends⟩ := Builtin.react_idle idle hr
    exact ⟨running, by rw [after, score, before], by rw [outbox, sends, List.append_nil]⟩

theorem foldlM_call {peers : List NodeId}
    (h : (peers.foldlM (fun n peer => n.call now (.newConnection peer)) n : Checked _) = .ok m) :
    n.Idles m := by
  induction peers generalizing n with
  | nil =>
    cases h
    exact refl m
  | cons peer peers ih =>
    rw [List.foldlM_cons] at h
    obtain ⟨k, first, rest⟩ := Checked.bind_eq_ok.mp h
    exact (call rfl first).trans (ih rest)

theorem refreshPeers {peers : List NodeId} (h : n.refreshPeers now peers = .ok m) :
    n.Idles m := by
  rw [Node.refreshPeers] at h
  split at h
  · cases h
    exact refl n
  · next session hs =>
    split at h
    · cases h
      exact refl n
    · obtain ⟨k, news, last⟩ := Checked.bind_eq_ok.mp h
      have met : n.Idles { n with session := some { session with peers } } :=
        ⟨by rw [isRunning, isRunning, hs]; rfl, rfl, by rw [Node.outbox, Node.outbox, hs]; rfl⟩
      exact met.trans ((foldlM_call news).trans (call rfl last))

end Idles

structure Rests (n m : Node Builtin) : Prop where
  score : m.score = n.score
  outbox : n.outbox = [] → m.outbox = []

namespace Rests

theorem refl (n : Node Builtin) : n.Rests n := ⟨rfl, fun empty => empty⟩

theorem trans (h : n.Rests m) (h' : m.Rests k) : n.Rests k :=
  ⟨h'.score.trans h.score, fun empty => h'.outbox (h.outbox empty)⟩

theorem stop (h : n.stop now = .ok m) : n.Rests m := by
  obtain ⟨uptime, rfl⟩ := stop_eq_ok h
  exact ⟨rfl, fun _ => rfl⟩

theorem crash (h : n.crash now = .ok m) : n.Rests m := by
  obtain ⟨uptime, rfl⟩ := crash_eq_ok h
  exact ⟨rfl, fun _ => rfl⟩

theorem boot (h : n.boot now = .ok m) : n.Rests m := by
  have idles := Idles.call rfl h
  exact ⟨idles.score, fun _ => idles.outbox⟩

theorem reboot (h : n.reboot now = .ok m) : n.Rests m := by
  obtain ⟨stopped, hs, hb⟩ := Checked.bind_eq_ok.mp h
  exact (stop hs).trans (boot hb)

theorem wake (h : n.wake now = .ok m) : n.Rests m := by
  rw [Node.wake] at h
  split at h
  · cases h
    exact refl n
  · exact boot h

theorem adjustTime {offset : Int32} (h : n.adjustTime now offset = .ok m) : n.Rests m := by
  have idles := Idles.call rfl h
  exact ⟨idles.score, fun empty => idles.outbox.trans empty⟩

theorem step {op : LifecycleOp} (h : (·.2) <$> n.step op = .ok m) : n.Rests m := by
  have done := step_eq_ok h
  cases op with
  | start now => exact wake done
  | stop now => exact stop done
  | crash now => exact crash done
  | restart now => exact reboot done

theorem of_event {e : Event} {id : NodeId} (h : e.Alters now id n m) : n.Rests m := by
  cases e with
  | start i => exact of_altered h wake (refl n)
  | stop i graceful => exact of_altered h stop (refl n)
  | crash i => exact of_altered h crash (refl n)
  | restart i => exact of_altered h reboot (refl n)
  | partition groups | heal =>
    obtain ⟨tag, rfl⟩ := h
    exact ⟨rfl, fun empty => empty⟩
  | drop l | restore l | degrade l latency loss =>
    cases h
    exact refl n

theorem of_fleetOp {op : FleetOp Builtin} {f : Fleet Builtin} {id : NodeId}
    (h : op.Alters f id n m) : n.Rests m := by
  cases op with
  | add i | create catalogue spec | remove i now =>
    cases h
    exact refl n
  | startAll now => exact wake h
  | stopAll now | shutdown => exact stop h
  | call i op => exact of_altered h step (refl n)
  | adjustTime i now offset => exact of_altered h adjustTime (refl n)

end Rests

structure Takes (n m : Node Builtin) (p : Message) : Prop where
  running : n.isRunning
  serves : m.score.serves = n.score.serves
  outbox : m.outbox = n.outbox ++ n.score.replies p.link.source p.payload
  echoed : m.score.echoed =
    n.score.echoed + (n.score.replies p.link.source p.payload).length
  answered : m.score.answered ≤ n.score.answered + if isEcho p.payload then 1 else 0

theorem Takes.pending {p : Message} (h : n.Takes m p) :
    m.pending = n.pending + (n.score.replies p.link.source p.payload).length := by
  rw [Node.pending, h.outbox, List.countP_append, Score.countP_replies, Node.pending]

theorem takes_of_deliver {p : Message} {received : Option (Node Builtin)}
    (h : n.deliver now p = .ok received) : ∀ m ∈ received, n.Takes m p := by
  rintro m rfl
  rw [deliver] at h
  split at h
  · next running =>
    obtain ⟨m', hc, h⟩ := Checked.map_eq_ok.mp h
    cases h
    obtain ⟨rfl, equipped⟩ | ⟨b, v, r, hr, before, after, outbox⟩ := call_cases hc
    · have silent : n.score = {} := by
        rw [score, show n.device = none from equipped running]
        rfl
      refine ⟨running, rfl, ?_, ?_, Nat.le_add_right _ _⟩
      · rw [silent]
        exact (List.append_nil _).symm
      · change n.score.echoed = _
        rw [silent]
        rfl
    · replace before : n.score = b.score := before
      obtain ⟨serves, sends, echoed, answered⟩ := Builtin.react_receive hr
      rw [sends] at echoed outbox
      rw [← after, ← before] at serves echoed answered
      rw [← before] at outbox
      exact ⟨running, serves, outbox, echoed, answered⟩
  · cases h

theorem prompts_of_tick (h : n.tick now = .ok m) : m.score = n.score ∧
    ∃ prompts, m.outbox = n.outbox ++ prompts ∧ ∀ o ∈ prompts, Prompt o.payload := by
  obtain ⟨rfl, -⟩ | ⟨b, v, r, hr, before, after, outbox⟩ := call_cases h
  · exact ⟨rfl, [], (List.append_nil _).symm, nofun⟩
  · obtain ⟨score, prompts⟩ := Builtin.react_tick hr
    exact ⟨by rw [after, score, before], r.sends, outbox, prompts⟩

structure Speaks (n m : Node Builtin) (mail : List Message) : Prop where
  running : m.isRunning = n.isRunning
  serves : m.score.serves = n.score.serves
  outbox : ∀ o ∈ m.outbox, o ∈ n.outbox ∨ Prompt o.payload ∨
    n.isRunning ∧ ∃ p ∈ mail, o ∈ n.score.replies p.link.source p.payload

namespace Speaks

variable {mail more : List Message}

theorem of_idles (h : n.Idles m) : n.Speaks m [] :=
  ⟨h.running, by rw [h.score], fun o ho => .inl (h.outbox ▸ ho)⟩

theorem trans (h : n.Speaks m mail) (h' : m.Speaks k more) : n.Speaks k (mail ++ more) := by
  refine ⟨h'.running.trans h.running, h'.serves.trans h.serves, fun o ho => ?_⟩
  rcases h'.outbox o ho with said | prompt | ⟨running, p, hp, answer⟩
  · rcases h.outbox o said with said | prompt | ⟨running, p, hp, answer⟩
    · exact .inl said
    · exact .inr (.inl prompt)
    · exact .inr (.inr ⟨running, p, List.mem_append_left _ hp, answer⟩)
  · exact .inr (.inl prompt)
  · rw [Score.mem_replies, h.serves, ← Score.mem_replies] at answer
    exact .inr (.inr ⟨h.running ▸ running, p, List.mem_append_right _ hp, answer⟩)

theorem take {p : Message} (h : n.take now p = .ok m) : n.Speaks m [p] := by
  obtain ⟨received, hd, rfl⟩ := Checked.map_eq_ok.mp h
  cases received with
  | none => exact ⟨rfl, rfl, fun o ho => .inl ho⟩
  | some m =>
    have takes := takes_of_deliver hd m rfl
    refine ⟨(isRunning_deliver hd).2 m rfl, takes.serves, fun o ho => ?_⟩
    rw [Option.getD_some, takes.outbox, List.mem_append] at ho
    rcases ho with said | answer
    · exact .inl said
    · exact .inr (.inr ⟨takes.running, p, List.mem_singleton_self p, answer⟩)

theorem takeAll (h : n.takeAll now mail = .ok m) : n.Speaks m mail := by
  induction mail generalizing n with
  | nil =>
    cases h
    exact of_idles (.refl _)
  | cons p mail ih =>
    rw [Node.takeAll, List.foldlM_cons] at h
    obtain ⟨k, first, rest⟩ := Checked.bind_eq_ok.mp h
    exact (take first).trans (ih rest)

theorem tick (h : n.tick now = .ok m) : n.Speaks m [] := by
  have running := isRunning_call h
  obtain ⟨score, prompts, outbox, prompting⟩ := prompts_of_tick h
  refine ⟨running, by rw [score], fun o ho => ?_⟩
  rw [outbox, List.mem_append] at ho
  exact ho.imp_right fun prompt => .inl (prompting o prompt)

end Speaks

end MeshNet.Node
