import MeshNet.Firmware.Catalogue
import MeshNet.Proofs.Firmware.Interval

namespace MeshNet

inductive Periodic where
  | requests
  | greetings
deriving DecidableEq

namespace Periodic

def key : Periodic → String
  | requests => "request_interval"
  | greetings => "broadcast_interval"

def interval (p : Periodic) (settings : Settings) : Nat :=
  max ((settings[p.key]?.bind Numeral.word64?).getD 5000).toNat 1

def message (p : Periodic) (settings : Settings) (k : Nat) (v : View) : List Outgoing :=
  match p with
  | requests =>
    match EchoClient.serverOf settings with
    | some server => [⟨server, EchoClient.request k⟩]
    | none => v.broadcast (EchoClient.request k)
  | greetings => v.broadcast (Beacon.greeting v.self)

theorem interval_pos (p : Periodic) (settings : Settings) : 0 < p.interval settings :=
  Nat.lt_of_lt_of_le Nat.one_pos (Nat.le_max_right _ _)

end Periodic

namespace Builtin

def periodic? : Builtin → Option Periodic
  | echoServer _ => none
  | echoClient _ => some .requests
  | beacon _ => some .greetings

def fired : Builtin → Nat
  | echoServer _ => 0
  | echoClient c => c.requestsSent
  | beacon b => b.broadcastsSent

def Awaits (settings : Settings) (last : Nat) : Builtin → Prop
  | echoServer _ => False
  | echoClient c =>
    c.server = EchoClient.serverOf settings ∧
      c.timer.Waits (Periodic.requests.interval settings) last
  | beacon b => b.timer.Waits (Periodic.greetings.interval settings) last

structure Silent (b : Builtin) (r : Reaction Builtin) : Prop where
  fired : r.state.fired = b.fired
  sends : r.sends = []

structure Speaks (p : Periodic) (settings : Settings) (b : Builtin) (v : View)
    (r : Reaction Builtin) : Prop where
  fired : r.state.fired = b.fired + 1
  sends : r.sends = p.message settings b.fired v

variable {b : Builtin} {p : Periodic} {settings : Settings} {v : View} {c : Callback}
  {r : Reaction Builtin} {last : Nat} {fault : Fault}

theorem periodic?_react (h : Firmware.react b v c = .ok r) : r.state.periodic? = b.periodic? := by
  cases b with
  | echoServer s | echoClient s | beacon s =>
    obtain ⟨reaction, -, rfl⟩ := Checked.map_eq_ok.1 h
    rfl

theorem awaits_of_setup (kind : b.periodic? = some p) (h : Firmware.react b v .setup = .ok r) :
    r.state.Awaits v.settings v.now.toNat ∧ b.Silent r := by
  cases b with
  | echoServer s => cases kind
  | echoClient s =>
    obtain ⟨reaction, hr, rfl⟩ := Checked.map_eq_ok.1 h
    obtain ⟨timer, started, hr⟩ := Checked.bind_eq_ok.1 hr
    cases hr
    exact ⟨⟨rfl, Timer.waits_of_start started⟩, rfl, rfl⟩
  | beacon s =>
    obtain ⟨reaction, hr, rfl⟩ := Checked.map_eq_ok.1 h
    obtain ⟨timer, started, hr⟩ := Checked.bind_eq_ok.1 hr
    cases hr
    exact ⟨Timer.waits_of_start started, rfl, rfl⟩

theorem awaits_of_tick (kind : b.periodic? = some p) (awaits : b.Awaits settings last)
    (h : Firmware.react b v .tick = .ok r) :
    if last + p.interval settings ≤ v.now.toNat then
      r.state.Awaits settings v.now.toNat ∧ b.Speaks p settings v r
    else r.state.Awaits settings last ∧ b.Silent r := by
  cases b with
  | echoServer s => cases kind
  | echoClient s =>
    cases kind
    obtain ⟨server, waits⟩ := awaits
    obtain ⟨reaction, hr, rfl⟩ := Checked.map_eq_ok.1 h
    have looked := Timer.look_cases hr waits
    split at looked
    · next due =>
      obtain ⟨timer, again, rfl⟩ := looked
      rw [if_pos due]
      refine ⟨⟨server, again⟩, rfl, ?_⟩
      rw [Reaction.map, server]
      rfl
    · next early =>
      subst looked
      rw [if_neg early]
      exact ⟨⟨server, waits⟩, rfl, rfl⟩
  | beacon s =>
    cases kind
    obtain ⟨reaction, hr, rfl⟩ := Checked.map_eq_ok.1 h
    have looked := Timer.look_cases hr awaits
    split at looked
    · next due =>
      obtain ⟨timer, again, rfl⟩ := looked
      rw [if_pos due]
      exact ⟨again, rfl, rfl⟩
    · next early =>
      subst looked
      rw [if_neg early]
      exact ⟨awaits, rfl, rfl⟩

theorem exists_react_other (kind : b.periodic? = some p) (awaits : b.Awaits settings last)
    (ordinary : c ≠ .setup) (no_tick : c ≠ .tick) :
    ∃ r, Firmware.react b v c = .ok r ∧ r.state.Awaits settings last ∧ b.Silent r := by
  cases b with
  | echoServer s => cases kind
  | echoClient s =>
    cases c with
    | setup => exact absurd rfl ordinary
    | tick => exact absurd rfl no_tick
    | receive sender payload =>
      refine ⟨_, rfl, ?_⟩
      cases isEcho payload with
      | true | false => exact ⟨awaits, rfl, rfl⟩
    | newConnection peer | changedConnections | timeAdjusted offset =>
      exact ⟨_, rfl, awaits, rfl, rfl⟩
  | beacon s =>
    cases c with
    | setup => exact absurd rfl ordinary
    | tick => exact absurd rfl no_tick
    | receive sender payload | newConnection peer | changedConnections | timeAdjusted offset =>
      exact ⟨_, rfl, awaits, rfl, rfl⟩

theorem react_setup_eq_error (kind : b.periodic? = some p) :
    Firmware.react b v .setup = .error fault ↔
      fault = .deadlineOverflow ∧ 2 ^ 64 ≤ v.now.toNat + p.interval v.settings := by
  cases b with
  | echoServer s => cases kind
  | echoClient s | beacon s =>
    cases kind
    refine Checked.map_eq_error.trans ?_
    exact (Checked.map_eq_error (x := Timer.start _ _)).trans Timer.start_eq_error

theorem react_tick_eq_error (kind : b.periodic? = some p) (awaits : b.Awaits settings last) :
    Firmware.react b v .tick = .error fault ↔
      fault = .deadlineOverflow ∧ last + p.interval settings ≤ v.now.toNat ∧
        2 ^ 64 ≤ v.now.toNat + p.interval settings := by
  cases b with
  | echoServer s => cases kind
  | echoClient s =>
    cases kind
    obtain ⟨-, waits⟩ := awaits
    rw [← Timer.due_iff waits, ← waits.every]
    exact Checked.map_eq_error.trans Timer.look_eq_error
  | beacon s =>
    cases kind
    rw [← Timer.due_iff awaits, ← Timer.Waits.every awaits]
    exact Checked.map_eq_error.trans Timer.look_eq_error

theorem fault_of_react (h : Firmware.react b v c = .error fault) : fault = .deadlineOverflow := by
  cases b with
  | echoServer s => cases h
  | echoClient s | beacon s =>
    cases c with
    | setup => exact ((react_setup_eq_error rfl).mp h).1
    | tick => exact (Timer.look_eq_error.mp (Checked.map_eq_error.mp h)).1
    | receive sender payload | newConnection peer | changedConnections | timeAdjusted offset =>
      cases h

theorem exists_react_setup (kind : b.periodic? = some p)
    (fits : v.now.toNat + p.interval v.settings < 2 ^ 64) :
    ∃ r, Firmware.react b v .setup = .ok r := by
  cases hr : Firmware.react b v .setup with
  | ok r => exact ⟨r, rfl⟩
  | error fault =>
    obtain ⟨-, out⟩ := (react_setup_eq_error kind).mp hr
    exact absurd fits (Nat.not_lt.mpr out)

theorem exists_react_tick (kind : b.periodic? = some p) (awaits : b.Awaits settings last)
    (fits : v.now.toNat + p.interval settings < 2 ^ 64) :
    ∃ r, Firmware.react b v .tick = .ok r := by
  cases hr : Firmware.react b v .tick with
  | ok r => exact ⟨r, rfl⟩
  | error fault =>
    obtain ⟨-, -, out⟩ := (react_tick_eq_error kind awaits).mp hr
    exact absurd fits (Nat.not_lt.mpr out)

end Builtin

end MeshNet
