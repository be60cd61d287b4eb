import MeshNet.Firmware.Catalogue
import MeshNet.Proofs.Node.Attendance
import MeshNet.Proofs.Node.Outcome

namespace MeshNet.Node

variable {φ : Type}

structure Attends (n : Node φ) (a : Attendance) : Prop where
  since : n.session.map (·.startedAt) = a.since
  finished : n.metrics.uptime.toNat = a.finished
  crashes : n.metrics.crashes = a.crashes

namespace Attends

variable {n : Node φ} {a : Attendance} {now : Time}

theorem isRunning (h : n.Attends a) : n.isRunning = a.since.isSome := by
  rw [← h.since, Option.isSome_map, Node.isRunning]

theorem totalUptime (h : n.Attends a) (ordered : a.InOrder now) :
    ∃ t, n.totalUptime now = .ok t ∧ t.toNat = a.total now := by
  have bound := Attendance.total_le ordered
  have total : a.total now =
      n.metrics.uptime.toNat + (n.session.map fun s => now.toNat - s.startedAt.toNat).getD 0 := by
    rw [Attendance.total, ← h.since, ← h.finished, Option.map_map]
    rfl
  rw [total] at bound ⊢
  rw [Node.totalUptime]
  cases hs : n.session with
  | none => exact ⟨_, rfl, rfl⟩
  | some session =>
    simp only [hs, Option.map_some, Option.getD_some] at bound ⊢
    have fits := Nat.lt_of_le_of_lt bound now.toNat_lt
    have sum : (UInt64.ofNat (n.metrics.uptime.toNat + (now.toNat - session.startedAt.toNat))).toNat
        = n.metrics.uptime.toNat + (session.startedAt.elapsed now).toNat := by
      rw [UInt64.toNat_ofNat_of_lt' fits, Time.toNat_elapsed]
    rw [Time.advance?_eq_some_iff.2 sum]
    exact ⟨_, rfl, UInt64.toNat_ofNat_of_lt' fits⟩

theorem stop (h : n.Attends a) (ordered : a.InOrder now) :
    ∃ m, n.stop now = .ok m ∧ m.Attends (a.leave now) := by
  obtain ⟨t, ht, total⟩ := h.totalUptime ordered
  have hm := n.stop_eq now
  rw [ht, Checked.map_ok] at hm
  refine ⟨_, hm, rfl, ?_, h.crashes⟩
  rw [Attendance.finished_leave, total]

theorem crash (h : n.Attends a) (ordered : a.InOrder now) :
    ∃ m, n.crash now = .ok m ∧ m.Attends (a.step (.crash now)) := by
  obtain ⟨t, ht, total⟩ := h.totalUptime ordered
  have hm := n.crash_eq now
  rw [ht, Checked.map_ok] at hm
  refine ⟨_, hm, rfl, ?_, ?_⟩
  · exact total.trans (a.finished_leave now).symm
  · rw [Attendance.step, ← h.isRunning, ← h.crashes]

end Attends

section Calls

variable [Firmware φ]

def step (n : Node φ) : LifecycleOp → Checked (Option NodeError × Node φ)
  | .start now => do
    match ← (n.start now).run with
    | .ok m => return (none, m)
    | .error e => return (some e, n)
  | .stop now => return (none, ← n.stop now)
  | .crash now => return (none, ← n.crash now)
  | .restart now => do
    match ← (n.restart now).run with
    | .ok m => return (none, m)
    | .error e => return (some e, n)

def steps (n : Node φ) : List LifecycleOp → Checked (Node φ)
  | [] => .ok n
  | op :: ops => do
    let (_, m) ← n.step op
    m.steps ops

def Ready (n : Node φ) : LifecycleOp → Prop
  | .start now => n.isRunning = false → n.SetupSucceeds now
  | .restart now => n.SetupSucceeds now
  | .stop _ | .crash _ => True

def ReadyAll (n : Node φ) : List LifecycleOp → Prop
  | [] => True
  | op :: ops => n.Ready op ∧ ∀ r ∈ (n.step op).toOption, r.2.ReadyAll ops

instance (n : Node φ) : (op : LifecycleOp) → Decidable (n.Ready op)
  | .start _ => inferInstanceAs (Decidable (_ → _))
  | .restart now => inferInstanceAs (Decidable (n.SetupSucceeds now))
  | .stop _ | .crash _ => inferInstanceAs (Decidable True)

instance decidableReadyAll : (n : Node φ) → (ops : List LifecycleOp) → Decidable (n.ReadyAll ops)
  | _, [] => inferInstanceAs (Decidable True)
  | _, _ :: ops =>
    have := fun r : Option NodeError × Node φ => decidableReadyAll r.2 ops
    inferInstanceAs (Decidable (_ ∧ ∀ r ∈ _, _))

theorem Attends.boot {n m : Node φ} {a : Attendance} {now : Time} (h : n.Attends a)
    (hm : n.boot now = .ok m) : m.Attends { a with since := some now } := by
  obtain ⟨device, sent, rfl⟩ := boot_eq_ok hm
  exact ⟨rfl, h.finished, h.crashes⟩

theorem Attends.reboot {n : Node φ} {a : Attendance} {now : Time} (h : n.Attends a)
    (ordered : a.InOrder now) (ready : n.SetupSucceeds now) :
    ∃ m, n.reboot now = .ok m ∧ m.Attends (a.step (.restart now)) := by
  obtain ⟨stopped, hs, hsa⟩ := h.stop ordered
  have ready : stopped.SetupSucceeds now := by
    obtain ⟨uptime, rfl⟩ := stop_eq_ok hs
    exact ready
  obtain ⟨m, hm⟩ := exists_boot ready
  exact ⟨m, by rw [Node.reboot, hs, Checked.ok_bind, hm], hsa.boot hm⟩

theorem Attends.step {n : Node φ} {a : Attendance} {op : LifecycleOp} (h : n.Attends a)
    (ordered : a.InOrder op.time) (ready : n.Ready op) :
    ∃ r, n.step op = .ok r ∧ r.2.Attends (a.step op) := by
  cases op with
  | start now =>
    cases hr : n.isRunning with
    | true =>
      have keeps : a.since.or (some now) = a.since := Option.or_of_isSome (h.isRunning ▸ hr)
      refine ⟨_, by rw [Node.step, start_of_running hr]; rfl, ?_⟩
      rw [Attendance.step, keeps]
      exact h
    | false =>
      have stopped : a.since = none :=
        Option.isNone_iff_eq_none.1 (Option.isSome_eq_false_iff.1 (h.isRunning ▸ hr))
      obtain ⟨m, hm⟩ := exists_boot (ready hr)
      refine ⟨_, by rw [Node.step, start_of_stopped hr, hm]; rfl, ?_⟩
      rw [Attendance.step, stopped, Option.none_or]
      exact h.boot hm
  | stop now =>
    have ordered : a.InOrder now := ordered
    obtain ⟨m, hm, hma⟩ := h.stop ordered
    exact ⟨(none, m), by rw [Node.step, hm]; rfl, hma⟩
  | crash now =>
    have ordered : a.InOrder now := ordered
    obtain ⟨m, hm, hma⟩ := h.crash ordered
    exact ⟨(none, m), by rw [Node.step, hm]; rfl, hma⟩
  | restart now =>
    have ordered : a.InOrder now := ordered
    obtain ⟨m, hm, hma⟩ := h.reboot ordered ready
    exact ⟨(none, m), by rw [Node.step, run_restart, hm]; rfl, hma⟩

theorem Attends.steps {n : Node φ} {a : Attendance} {ops : List LifecycleOp} {past now : Time}
    (h : n.Attends a) (ordered : a.InOrder past)
    (times : (past :: (ops.map (·.time) ++ [now])).Pairwise (· ≤ ·)) (ready : n.ReadyAll ops) :
    ∃ m, n.steps ops = .ok m ∧ m.Attends (a.steps ops) ∧ (a.steps ops).InOrder now := by
  induction ops generalizing n a past with
  | nil => exact ⟨n, rfl, h, ordered.later (List.rel_of_pairwise_cons times (by simp))⟩
  | cons op ops ih =>
    have elapsed : past ≤ op.time := List.rel_of_pairwise_cons times (by simp)
    obtain ⟨r, hr, ha⟩ := h.step (ordered.later elapsed) ready.1
    obtain ⟨m, hm, hma, last⟩ := ih ha (ordered.later elapsed).step times.of_cons
      (ready.2 r (by rw [hr]; rfl))
    exact ⟨m, by rw [Node.steps, hr]; exact hm, hma, last⟩

theorem uptime_is_time_attended (n : Node φ) (ops : List LifecycleOp) (now : Time)
    (stopped : n.session = none) (unused : n.metrics = {})
    (times : (ops.map (·.time) ++ [now]).Pairwise (· ≤ ·)) (ready : n.ReadyAll ops) :
    let a := Attendance.steps {} ops
    ∃ m t, n.steps ops = .ok m ∧ a.InOrder now ∧
      m.isRunning = a.since.isSome ∧ m.metrics.crashes = a.crashes ∧
      m.totalUptime now = .ok t ∧ t.toNat = a.total now ∧ t ≤ now ∧
      m.uptime now = .ok (if m.isRunning then t else 0) ∧
      (∀ op, op.time = now → m.Ready op → ∃ r, m.step op = .ok r ∧ r.2.totalUptime now = .ok t) ∧
      (m.isRunning → m.step (.start now) = .ok (some (.alreadyRunning m.id), m)) ∧
      (m.isRunning = false →
        m.step (.stop now) = .ok (none, m) ∧ m.step (.crash now) = .ok (none, m)) ∧
      (m.SetupSucceeds now →
        ∃ k, m.step (.restart now) = .ok (none, k) ∧ k.isRunning) := by
  intro a
  have new : n.Attends {} := ⟨by rw [stopped]; rfl, by rw [unused]; rfl, by rw [unused]⟩
  have ordered : ({} : Attendance).InOrder 0 := List.pairwise_singleton _ _
  have times := times.cons fun _ _ => UInt64.zero_le
  obtain ⟨m, hm, hma, last⟩ := new.steps ordered times ready
  obtain ⟨t, ht, total⟩ := hma.totalUptime last
  refine ⟨m, t, hm, last, hma.isRunning, hma.crashes, ht, total, ?_, ?_, ?_, ?_, ?_, ?_⟩
  · rw [UInt64.le_iff_toNat_le, total]
    exact Attendance.total_le last
  · rw [uptime, ht]
    split <;> rfl
  · rintro op rfl ready
    obtain ⟨r, hr, hra⟩ := hma.step last ready
    obtain ⟨u, hu, same⟩ := hra.totalUptime last.step
    rw [Attendance.total_step, ← total, UInt64.toNat_inj] at same
    exact ⟨r, hr, by rw [hu, same]⟩
  · intro running
    rw [Node.step, start_of_running running]
    rfl
  · intro hr
    have hs : m.session = none := by simpa [isRunning] using hr
    constructor
    · rw [Node.step, stop_of_stopped hs]
      rfl
    · rw [Node.step, crash, if_neg (by simp [hr])]
      rfl
  · intro ready
    obtain ⟨k, hk, hka⟩ := hma.reboot last ready
    exact ⟨k, by rw [Node.step, run_restart, hk]; rfl, by rw [hka.isRunning]; rfl⟩

theorem uptime_is_time_attended_repeated_crash :
    let n : Node Builtin := { id := ⟨1⟩, device := some { firmware := .echoClient {} } }
    let ops : List LifecycleOp :=
      [.stop 3, .start 10, .start 12, .crash 20, .crash 25, .restart 30, .restart 30, .stop 41,
        .restart 45]
    let a := Attendance.steps {} ops
    a = { sessions := [(10, 20), (30, 30), (30, 41)], since := some 45, crashes := 1 } ∧
    ∃ m t, n.steps ops = .ok m ∧ m.metrics.crashes = 1 ∧
      m.totalUptime 50 = .ok t ∧ t.toNat = 10 + 0 + 11 + 5 ∧ m.uptime 50 = .ok t ∧
      m.step (.start 50) = .ok (some (.alreadyRunning m.id), m) := by
  intro n ops a
  have ha : a = { sessions := [(10, 20), (30, 30), (30, 41)], since := some 45, crashes := 1 } := by
    decide +kernel
  have ready : n.ReadyAll ops := by
    decide +kernel
  obtain ⟨m, t, hm, -, running, crashes, ht, total, -, hu, -, refused, -⟩ :=
    uptime_is_time_attended n ops 50 rfl rfl (by decide +kernel) ready
  have running : m.isRunning := by rw [running, show a.since = some 45 by rw [ha]]; rfl
  rw [if_pos running] at hu
  refine ⟨ha, m, t, hm, ?_, ht, ?_, hu, refused running⟩
  · rw [crashes, show a.crashes = 1 by rw [ha]]
  · rw [total, show a.total 50 = 26 by rw [ha]; rfl]

end Calls

end MeshNet.Node
