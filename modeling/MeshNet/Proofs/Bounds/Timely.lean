import MeshNet.Proofs.Event.Atomic
import MeshNet.Proofs.Fleet.Step
import MeshNet.Simulation

namespace MeshNet

namespace Node

variable {φ : Type}

def Timely (n : Node φ) (now : Time) : Prop := ∃ a, n.Attends a ∧ a.InOrder now

namespace Timely

variable {n m : Node φ} {now later : Time}

theorem fresh (session : n.session = none) (metrics : n.metrics = {}) (now : Time) :
    n.Timely now := by
  refine ⟨{}, ⟨?_, ?_, ?_⟩, List.pairwise_singleton _ _⟩
  · rw [session, Option.map_none]
  · rw [metrics]
    rfl
  · rw [metrics]

theorem mono (h : n.Timely now) (passed : now ≤ later) : n.Timely later := by
  obtain ⟨a, attends, ordered⟩ := h
  exact ⟨a, attends, ordered.later passed⟩

theorem congr (h : n.Timely now) (uptime : m.metrics.uptime = n.metrics.uptime)
    (crashes : m.metrics.crashes = n.metrics.crashes)
    (session : m.session.map (·.startedAt) = n.session.map (·.startedAt)) : m.Timely now := by
  obtain ⟨a, attends, ordered⟩ := h
  refine ⟨a, ⟨?_, ?_, ?_⟩, ordered⟩
  · rw [session, attends.since]
  · rw [uptime, attends.finished]
  · rw [crashes, attends.crashes]

theorem totalUptime (h : n.Timely now) : ∃ t, n.totalUptime now = .ok t ∧ t ≤ now := by
  obtain ⟨a, attends, ordered⟩ := h
  obtain ⟨t, ht, total⟩ := attends.totalUptime ordered
  refine ⟨t, ht, ?_⟩
  rw [UInt64.le_iff_toNat_le, total]
  exact Attendance.total_le ordered

theorem stop (h : n.Timely now) : ∃ m, n.stop now = .ok m ∧ m.session = none ∧ m.Timely now := by
  obtain ⟨a, attends, ordered⟩ := h
  obtain ⟨m, hm, left⟩ := attends.stop ordered
  have inOrder : (a.step (.stop now)).InOrder now := Attendance.InOrder.step ordered
  obtain ⟨uptime, rfl⟩ := stop_eq_ok hm
  exact ⟨_, hm, rfl, _, left, inOrder⟩

theorem crash (h : n.Timely now) : ∃ m, n.crash now = .ok m ∧ m.Timely now := by
  obtain ⟨a, attends, ordered⟩ := h
  obtain ⟨m, hm, left⟩ := attends.crash ordered
  have inOrder : (a.step (.crash now)).InOrder now := Attendance.InOrder.step ordered
  exact ⟨m, hm, _, left, inOrder⟩

theorem begin (h : n.Timely now) (stopped : n.session = none) :
    Timely { n with session := some { startedAt := now } } now := by
  obtain ⟨a, attends, ordered⟩ := h
  have absent : a.since = none := by
    rw [← attends.since, stopped]
    rfl
  have inOrder : (a.step (.start now)).InOrder now := Attendance.InOrder.step ordered
  refine ⟨a.step (.start now), ⟨?_, attends.finished, attends.crashes⟩, inOrder⟩
  simp [Attendance.step, absent]

theorem flush (h : n.Timely now) : n.flush.Timely now := by
  refine h.congr rfl rfl ?_
  rw [Node.flush, Option.map_map]
  rfl

end Timely

end Node

namespace Fleet

variable {φ : Type} {f : Fleet φ} {now later : Time}

theorem exists_of_each_eq_error {act : Node φ → Checked (Node φ)} {fault : Fault}
    (h : f.each act = .error fault) : ∃ id n, f.find? id = some n ∧ act n = .error fault := by
  have walk {es : List (NodeId × Node φ)}
      (he : (es.mapM fun e => return (e.1, ← act e.2) : Checked _) = .error fault) :
      ∃ e ∈ es, act e.2 = .error fault := by
    induction es with
    | nil => cases he
    | cons e es ih =>
      rw [List.mapM_cons] at he
      cases ha : act e.2 with
      | error raised =>
        rw [ha] at he
        cases he
        exact ⟨e, List.mem_cons_self .., ha⟩
      | ok n =>
        rw [ha] at he
        cases hes : (es.mapM fun e => return (e.1, ← act e.2) : Checked _) with
        | error raised =>
          rw [hes] at he
          cases he
          obtain ⟨e', he', ha'⟩ := ih hes
          exact ⟨e', List.mem_cons_of_mem _ he', ha'⟩
        | ok rest =>
          rw [hes] at he
          cases he
  cases hm : (f.nodes.toList.mapM fun e => return (e.1, ← act e.2) : Checked _) with
  | ok gs =>
    rw [each, hm] at h
    cases h
  | error raised =>
    rw [each, hm] at h
    cases h
    obtain ⟨e, he, ha⟩ := walk hm
    exact ⟨e.1, e.2, Std.ExtTreeMap.mem_toList_iff_getElem?_eq_some.mp he, ha⟩

def Timely (f : Fleet φ) (now : Time) : Prop := f.Every fun _ n => n.Timely now

namespace Timely

theorem mono (h : f.Timely now) (passed : now ≤ later) : f.Timely later :=
  fun id n hn => (h id n hn).mono passed

theorem observe (h : f.Timely now) (time : Time) : (f.observe time).Timely now := h

theorem assignGroups (h : f.Timely now) (groups : Groups) : (f.assignGroups groups).Timely now :=
  assignGroups_induction (P := (Timely · now)) h
    (fun _ _ _ h => Every.modify h fun _ hn => hn.congr rfl rfl rfl) groups

end Timely

end Fleet

def Firmware.Raises (φ : Type) [Firmware φ] (fault : Fault) : Prop :=
  ∃ (firmware : φ) (v : View) (c : Callback), Firmware.react firmware v c = .error fault

def Yields (φ : Type) [Firmware φ] {α : Type} (x : Checked α) (P : α → Prop) : Prop :=
  match x with
  | .ok a => P a
  | .error fault => Firmware.Raises φ fault

variable {φ : Type} [Firmware φ]

namespace Yields

variable {α β : Type} {x : Checked α} {P Q : α → Prop}

theorem of_ok {a : α} (h : P a) : Yields φ (.ok a) P := h

theorem of_exists (h : ∃ a, x = .ok a ∧ P a) : Yields φ x P := by
  obtain ⟨a, rfl, ha⟩ := h
  exact ha

theorem react (firmware : φ) (v : View) (c : Callback) :
    Yields φ (Firmware.react firmware v c) fun _ => True := by
  cases h : Firmware.react firmware v c with
  | error fault => exact ⟨firmware, v, c, h⟩
  | ok reaction => exact of_ok trivial

theorem of_eq_ok {a : α} (h : Yields φ x P) (hx : x = .ok a) : P a := by
  rw [hx] at h
  exact h

theorem bind {f : α → Checked β} {R : β → Prop} (h : Yields φ x P)
    (hf : ∀ a, P a → Yields φ (f a) R) : Yields φ (x >>= f) R := by
  cases x with
  | error fault => exact h
  | ok a => exact hf a h

theorem map {f : α → β} {R : β → Prop} (h : Yields φ x P) (hf : ∀ a, P a → R (f a)) :
    Yields φ (f <$> x) R := by
  cases x with
  | error fault => exact h
  | ok a => exact hf a h

theorem foldlM {step : β → α → Checked β} {R : β → Prop} {b : β} (h : R b)
    (hs : ∀ b a, R b → Yields φ (step b a) R) (as : List α) : Yields φ (as.foldlM step b) R := by
  induction as generalizing b with
  | nil => exact of_ok h
  | cons a as ih =>
    rw [List.foldlM_cons]
    exact (hs b a h).bind fun b hb => ih hb

end Yields

namespace Node.Timely

variable {n : Node φ} {now : Time}

theorem call (h : n.Timely now) (c : Callback) : Yields φ (n.call now c) (·.Timely now) := by
  rw [Node.call]
  split
  · next device session hd hs =>
    refine (Yields.react device.firmware _ c).bind fun reaction _ => .of_ok ?_
    refine h.congr rfl rfl ?_
    rw [hs]
    rfl
  · exact .of_ok h

theorem boot (h : n.Timely now) (stopped : n.session = none) :
    Yields φ (n.boot now) (·.Timely now) := (h.begin stopped).call .setup

theorem reboot (h : n.Timely now) : Yields φ (n.reboot now) (·.Timely now) := by
  obtain ⟨m, hm, stopped, timely⟩ := h.stop
  rw [Node.reboot, hm]
  exact timely.boot stopped

theorem bootIfStopped (h : n.Timely now) :
    Yields φ (if n.isRunning then .ok n else n.boot now) (·.Timely now) := by
  split
  · exact .of_ok h
  · next stopped => exact h.boot (Option.not_isSome_iff_eq_none.mp stopped)

theorem deliver (h : n.Timely now) (m : Message) :
    Yields φ (n.deliver now m) fun received => ∀ n' ∈ received, n'.Timely now := by
  rw [Node.deliver]
  split
  · have counted : Timely { n with metrics := n.metrics.receive m.payload } now := h.congr rfl rfl rfl
    refine (counted.call _).map fun n' hn' => ?_
    intro k hk
    cases hk
    exact hn'
  · exact .of_ok fun n' hn' => absurd hn' (Option.not_mem_none n')

theorem refreshPeers (h : n.Timely now) (peers : List NodeId) :
    Yields φ (n.refreshPeers now peers) (·.Timely now) := by
  rw [Node.refreshPeers]
  split
  · exact .of_ok h
  · next session hs =>
    split
    · exact .of_ok h
    · have known : Timely { n with session := some { session with peers } } now :=
        h.congr rfl rfl (by rw [hs]; rfl)
      refine (Yields.foldlM (R := (·.Timely now)) known (fun k peer hk => ?_) _).bind fun k hk => ?_
      · exact hk.call (.newConnection peer)
      · exact hk.call .changedConnections

end Node.Timely

namespace Fleet

namespace Timely

variable {f : Fleet φ} {now : Time}

theorem each (h : f.Timely now) {act : Node φ → Checked (Node φ)}
    (ha : ∀ n, n.Timely now → Yields φ (act n) (·.Timely now)) :
    Yields φ (f.each act) (·.Timely now) := by
  cases he : f.each act with
  | ok g =>
    exact Every.each h he fun id n m hn hm => (ha n hn).of_eq_ok hm
  | error fault =>
    obtain ⟨id, n, hn, hfault⟩ := exists_of_each_eq_error he
    have yields := ha n (h id n hn)
    rw [hfault] at yields
    exact yields

theorem revise (h : f.Timely now) {id : NodeId} {act : Node φ → Checked (Node φ)}
    (ha : ∀ n, n.Timely now → Yields φ (act n) (·.Timely now)) :
    Yields φ (f.revise id act) (·.Timely now) := by
  rw [Fleet.revise]
  split
  · exact .of_ok h
  · next n hn => exact (ha n (h id n hn)).map fun m hm => Every.insert h hm

theorem startAll (h : f.Timely now) : Yields φ (f.startAll now) (·.2.Timely now) :=
  ((h.observe now).each fun _ hn => hn.bootIfStopped).bind fun _ hg => .of_ok hg

theorem stopAll (h : f.Timely now) : Yields φ (f.stopAll now) (·.2.Timely now) := by
  refine ((h.observe now).each fun n hn => ?_).bind fun g hg => .of_ok hg
  obtain ⟨m, hm, -, timely⟩ := hn.stop
  exact .of_exists ⟨m, hm, timely⟩

theorem remove (h : f.Timely now) (id : NodeId) :
    Yields φ (f.remove id now) fun r => (∀ n ∈ r.1, n.Timely now) ∧ r.2.Timely now := by
  rw [Fleet.remove]
  split
  · exact .of_ok ⟨fun n hn => absurd hn (Option.not_mem_none n), h⟩
  · next n hn =>
    obtain ⟨m, hm, -, timely⟩ := (h id n hn).stop
    rw [hm]
    refine .of_ok ⟨fun k hk => ?_, Every.erase (h.observe now) id _⟩
    cases hk
    exact timely

theorem deliver (h : f.Timely now) (m : Message) :
    Yields φ (f.deliver now m) (·.2.Timely now) := by
  rw [Fleet.deliver]
  split
  · exact .of_ok h
  · next n hn =>
    refine ((h _ n hn).deliver m).bind fun received hr => ?_
    cases received with
    | none => exact .of_ok h
    | some n' => exact .of_ok (Every.insert h (hr n' rfl))

theorem deliverAll (h : f.Timely now) (ms : List Message) :
    Yields φ (deliverAll now ms f) (·.2.Timely now) := by
  induction ms generalizing f with
  | nil => exact .of_ok h
  | cons m ms ih => exact (h.deliver m).bind fun r hr => (ih hr).bind fun rest hrest => .of_ok hrest

theorem refreshAll (h : f.Timely now) (cuts : Cuts) :
    Yields φ (f.refreshAll now cuts) (·.Timely now) := by
  rw [Fleet.refreshAll]
  refine h.each fun n hn => ?_
  split
  · exact hn.refreshPeers _
  · exact .of_ok hn

theorem tickAll (h : f.Timely now) : Yields φ (f.tickAll now) (·.Timely now) :=
  h.each fun _ hn => hn.call .tick

end Timely

end Fleet

namespace Event

variable {mesh : Mesh φ} {now : Time}

theorem effect_yields (h : mesh.fleet.Timely now) (e : Event) :
    Yields φ (e.effect now mesh) (·.fleet.Timely now) := by
  cases e with
  | start id => exact (h.revise fun n hn => hn.bootIfStopped).map fun _ hf => hf
  | stop id graceful =>
    refine (h.revise fun n hn => ?_).map fun _ hf => hf
    obtain ⟨m, hm, -, timely⟩ := hn.stop
    exact .of_exists ⟨m, hm, timely⟩
  | crash id => exact (h.revise fun n hn => .of_exists hn.crash).map fun _ hf => hf
  | restart id => exact (h.revise fun n hn => hn.reboot).map fun _ hf => hf
  | drop l | restore l => exact .of_ok h
  | degrade l latency loss =>
    rw [effect]
    split
    · exact .of_ok h
    · exact .of_ok h
  | partition groups => exact .of_ok (h.assignGroups groups)
  | heal => exact .of_ok (Fleet.Every.map h fun _ _ hn => hn.congr rfl rfl rfl)

theorem perform_yields (h : mesh.fleet.Timely now) (e : Event) :
    Yields φ ((e.perform now).run.run mesh : Checked _) (·.2.fleet.Timely now) := by
  rw [perform_eq]
  split
  · exact .of_ok h
  · exact (effect_yields h e).map fun _ hm => hm

end Event

theorem Worklist.perform_yields {mesh : Mesh φ} {now : Time} (h : mesh.fleet.Timely now)
    (tasks : List (Waiting Event)) :
    Yields φ (Worklist.perform now tasks mesh) (·.2.fleet.Timely now) := by
  induction tasks generalizing mesh with
  | nil => exact .of_ok h
  | cons task tasks ih =>
    rw [perform, Event.executable_perform_eq]
    have first := Event.perform_yields h task.item
    refine Yields.bind (P := (·.2.fleet.Timely now)) (first.map fun _ hm => hm) fun r hr => ?_
    exact (ih hr).bind fun rest hrest => .of_ok hrest

theorem Agenda.run_yields {mesh : Mesh φ} {now : Time} (h : mesh.fleet.Timely now)
    (a : Agenda Event) : Yields φ (a.run now mesh) (·.2.2.fleet.Timely now) := by
  rw [run, Worklist.performAll_eq]
  have all := Worklist.perform_yields h (a.pending.ready now)
  exact Yields.bind (P := (·.2.fleet.Timely now)) (all.map fun _ hm => hm) fun r hr => .of_ok hr

namespace Mesh

variable {mesh : Mesh φ} {now : Time}

theorem work_yields {f : Fleet φ} (h : f.Timely now) (arrived : List Message) (cuts : Cuts) :
    Yields φ (work f arrived cuts now) (·.2.Timely now) := by
  refine ((h.observe now).deliverAll arrived).bind fun r hr => ?_
  refine (hr.refreshAll cuts).bind fun g hg => ?_
  exact hg.tickAll.bind fun k hk => .of_ok hk

theorem update_yields (h : mesh.fleet.Timely now) :
    Yields φ (mesh.update now) (·.2.fleet.Timely now) := by
  refine (work_yields h _ _).bind fun r hr => .of_ok ?_
  exact Fleet.Every.map hr fun _ _ hn => hn.flush

end Mesh

namespace Simulation

variable {s : Simulation φ}

theorem advance_yields (h : s.mesh.fleet.Timely s.clock) (now : Time) :
    Yields φ (s.advance now) fun r => r.2.mesh.fleet.Timely r.2.clock ∧ s.clock ≤ r.2.clock := by
  have passed : s.clock ≤ max s.clock now := Time.le_max_left _ _
  refine (Agenda.run_yields (h.mono passed) s.agenda).bind fun r hr => ?_
  exact (Mesh.update_yields hr).bind fun u hu => .of_ok ⟨hu, passed⟩

theorem advanceAll_yields (h : s.mesh.fleet.Timely s.clock) (times : List Time) :
    Yields φ (s.advanceAll times) fun r => r.2.mesh.fleet.Timely r.2.clock ∧ s.clock ≤ r.2.clock := by
  induction times generalizing s with
  | nil => exact .of_ok ⟨h, UInt64.le_refl _⟩
  | cons time times ih =>
    refine (advance_yields h time).bind fun r hr => ?_
    refine (ih hr.1).bind fun rest hrest => .of_ok ⟨hrest.1, UInt64.le_trans hr.2 hrest.2⟩

end Simulation

end MeshNet
