import MeshNet.Proofs.Firmware.Recorder

namespace MeshNet

def Call.IsSession : List Call → Prop
  | [] => False
  | first :: rest =>
    first.callback = .setup ∧ first.view.peers = [] ∧ ∀ c ∈ rest, c.callback ≠ .setup

theorem Call.IsSession.append {cs ds : List Call} (h : Call.IsSession cs)
    (later : ∀ d ∈ ds, d.callback ≠ .setup) : Call.IsSession (cs ++ ds) := by
  cases cs with
  | nil => cases h
  | cons first rest =>
    obtain ⟨setup, peers, others⟩ := h
    exact ⟨setup, peers, fun c hc => (List.mem_append.1 hc).elim (others c) (later c)⟩

namespace Node

variable {φ : Type}

inductive Turn (n m : Node φ) : List Callback → Prop where
  | begins : m.isRunning → Turn n m [.setup]
  | rests : m.isRunning = false → Turn n m []
  | continues {cs} : n.isRunning → m.isRunning → .setup ∉ cs → Turn n m cs

structure Called (n m : Node (Recorder φ)) (cs : List Callback) : Prop where
  equipped : m.device.isSome = n.device.isSome
  turn : n.Turn m cs
  calls : n.device.isSome → ∃ chunk, m.calls = n.calls ++ chunk ∧
    chunk.map (·.callback) = cs ∧
      ∀ c ∈ chunk, c.callback = .setup → c.view.peers = [] ∧ m.outbox = c.sends

def InSessions (n : Node (Recorder φ)) : Prop :=
  ∃ (past : List (List Call)) (current : List Call), n.calls = past.flatten ++ current ∧ (∀ s ∈ past, Call.IsSession s) ∧
    if n.isRunning then Call.IsSession current else current = []

def opening (n m : Node φ) : List Callback :=
  if ¬ n.isRunning ∧ m.isRunning then [.setup] else []

namespace Called

variable {n m : Node (Recorder φ)} {cs : List Callback}

theorem of_same (device : m.device = n.device) (h : m.isRunning → n.isRunning) :
    n.Called m [] where
  equipped := by rw [device]
  turn := by
    cases hr : m.isRunning with
    | true => exact .continues (h hr) hr List.not_mem_nil
    | false => exact .rests hr
  calls _ := ⟨[], by rw [Node.calls, device, Node.calls, List.append_nil], rfl, nofun⟩

theorem unchanged (device : m.device = n.device) (h : m.isRunning → n.isRunning) :
    n.Called m (n.opening m) := by
  rw [opening, if_neg fun hr => hr.1 (h hr.2)]
  exact of_same device h

theorem of_hears (h : n.Hears m cs) (ordinary : .setup ∉ cs) :
    n.Called m (if n.isRunning then cs else []) := by
  obtain ⟨chunk, hm, heard⟩ := h.calls
  refine ⟨h.equipped, ?_, fun equipped => ⟨chunk, hm, ?_, fun c hc setup => ?_⟩⟩
  · cases hr : n.isRunning with
    | true => exact .continues hr (h.running.trans hr) (by simpa using ordinary)
    | false => exact .rests (h.running.trans hr)
  · simpa [equipped] using heard
  · have mem : Callback.setup ∈ chunk.map (·.callback) := List.mem_map.2 ⟨c, hc, setup⟩
    rw [heard] at mem
    split at mem
    · cases ordinary mem
    · cases mem

theorem inSessions (h : n.Called m cs) (equipped : n.device.isSome) (sessions : n.InSessions) :
    m.InSessions := by
  obtain ⟨past, current, hn, finished, under⟩ := sessions
  obtain ⟨chunk, hm, heard, setups⟩ := h.calls equipped
  have closed : ∃ past : List (List Call), n.calls = past.flatten ∧ ∀ s ∈ past, Call.IsSession s := by
    split at under
    · refine ⟨past ++ [current], by simp [hn], fun s hs => ?_⟩
      rcases List.mem_append.1 hs with hs | hs
      · exact finished s hs
      · rwa [List.mem_singleton.1 hs]
    · exact ⟨past, by rw [hn, under, List.append_nil], finished⟩
  cases h.turn with
  | begins running =>
    obtain ⟨sessions, hs, finished⟩ := closed
    obtain ⟨c, rfl, setup⟩ := List.map_eq_singleton_iff.1 heard
    refine ⟨sessions, [c], by rw [hm, hs], finished, ?_⟩
    rw [if_pos running]
    exact ⟨setup, (setups c (List.mem_singleton_self c) setup).1, nofun⟩
  | rests stopped =>
    obtain ⟨sessions, hs, finished⟩ := closed
    obtain rfl := List.map_eq_nil_iff.1 heard
    refine ⟨sessions, [], by rw [hm, hs], finished, ?_⟩
    rw [if_neg (by simp [stopped])]
  | continues before running ordinary =>
    rw [if_pos before] at under
    refine ⟨past, current ++ chunk, by rw [hm, hn, List.append_assoc], finished, ?_⟩
    rw [if_pos running]
    refine under.append fun c hc setup => ordinary ?_
    rw [← heard]
    exact List.mem_map.2 ⟨c, hc, setup⟩

end Called

variable {n m : Node (Recorder φ)} {now : Time}

theorem stop_called (h : n.stop now = .ok m) : n.Called m (n.opening m) := by
  obtain ⟨uptime, rfl⟩ := stop_eq_ok h
  exact .unchanged rfl nofun

theorem crash_called (h : n.crash now = .ok m) : n.Called m (n.opening m) := by
  obtain ⟨uptime, rfl⟩ := crash_eq_ok h
  exact .unchanged rfl nofun

variable [Firmware φ]

theorem boot_called (h : n.boot now = .ok m) : n.Called m [.setup] ∧ m.isRunning := by
  obtain ⟨running, equipped, called⟩ := boot_hears h
  refine ⟨⟨equipped, .begins running, fun he => ?_⟩, running⟩
  rw [if_pos he] at called
  obtain ⟨c, hm, setup, peers, outbox⟩ := called
  refine ⟨[c], hm, by rw [List.map_singleton, setup], fun d hd _ => ?_⟩
  rw [List.mem_singleton.1 hd]
  exact ⟨peers, outbox⟩

theorem reboot_called (h : n.reboot now = .ok m) : n.Called m [.setup] := by
  obtain ⟨k, hs, hb⟩ := Checked.bind_eq_ok.1 h
  obtain ⟨uptime, rfl⟩ := stop_eq_ok hs
  obtain ⟨⟨equipped, -, calls⟩, running⟩ := boot_called hb
  exact ⟨equipped, .begins running, calls⟩

theorem wake_called (h : n.wake now = .ok m) : n.Called m (n.opening m) := by
  rw [wake] at h
  split at h
  · cases h
    exact .unchanged rfl fun hr => hr
  · next stopped =>
    obtain ⟨called, running⟩ := boot_called h
    rwa [opening, if_pos ⟨stopped, running⟩]

theorem step_called {op : LifecycleOp} (h : (·.2) <$> n.step op = .ok m) :
    n.Called m (match op with
      | .restart _ => [.setup]
      | .start _ | .stop _ | .crash _ => n.opening m) := by
  have done := step_eq_ok h
  cases op with
  | start now => exact wake_called done
  | stop now => exact stop_called done
  | crash now => exact crash_called done
  | restart now => exact reboot_called done

end Node

end MeshNet
