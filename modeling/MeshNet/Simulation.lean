import MeshNet.Event.Effect

namespace MeshNet

structure Simulation (φ : Type) where
  clock : Time := 0
  mesh : Mesh φ
  agenda : Agenda Event := ∅

structure StepReport where
  now : Time
  executed : Nat
  failed : Nat
  update : UpdateReport
deriving DecidableEq, Repr

namespace Simulation

variable {φ : Type}

def ofNetwork (network : Network) : Simulation φ where
  mesh := { network }

def seeded (seed : UInt64) : Simulation φ := ofNetwork (.seeded seed)

def schedule (s : Simulation φ) (e : Event) (time : Time) : Simulation φ :=
  { s with agenda := s.agenda.schedule e time }

/-- The time of the step after `now`, one `stride` later but not after `last`. A stride of zero
counts as one. -/
def nextStep (stride : UInt64) (last now : Time) : Time := min (now.advance (max stride 1)) last

theorem toNat_nextStep (stride : UInt64) {last now : Time} (h : now.toNat ≤ last.toNat) :
    (nextStep stride last now).toNat = min (now.toNat + max stride.toNat 1) last.toNat := by
  have := last.toNat_lt
  rw [nextStep, Time.toNat_min, Time.toNat_advance, Time.toNat_max, UInt64.toNat_one, Time.last,
    UInt64.size]
  omega

def stepTimes (stride : UInt64) (last now : Time) : List Time :=
  if now < last then nextStep stride last now :: stepTimes stride last (nextStep stride last now)
  else []
termination_by last.toNat - now.toNat
decreasing_by
  rename_i h
  have h := UInt64.lt_iff_toNat_lt.1 h
  rw [toNat_nextStep stride (Nat.le_of_lt h)]
  omega

section Steps

variable [Firmware φ]

def advance (s : Simulation φ) (now : Time) : Checked (StepReport × Simulation φ) := do
  let now := max s.clock now
  let (executed, agenda, mesh) ← s.agenda.run now s.mesh
  let (update, mesh) ← mesh.update now
  let failed := agenda.failures.length - s.agenda.failures.length
  return ({ now, executed, failed, update }, { clock := now, mesh, agenda })

def advanceAll : List Time → Simulation φ → Checked (List StepReport × Simulation φ)
  | [], s => .ok ([], s)
  | time :: times, s => do
    let (report, s) ← s.advance time
    let (reports, s) ← advanceAll times s
    return (report :: reports, s)

def runUntil (s : Simulation φ) (last : Time) (stride : UInt64) :
    Checked (List StepReport × Simulation φ) :=
  s.advanceAll (stepTimes stride last s.clock)

theorem advanceAll_induction {P : Simulation φ → Prop}
    (step : ∀ s s' now report, P s → s.advance now = .ok (report, s') → P s') {times : List Time}
    {s s' : Simulation φ} {reports : List StepReport} (start : P s)
    (h : s.advanceAll times = .ok (reports, s')) : P s' := by
  induction times generalizing s reports with
  | nil =>
    cases h
    exact start
  | cons time times ih =>
    obtain ⟨⟨report, next⟩, first, h⟩ := Checked.bind_eq_ok.mp h
    obtain ⟨⟨rest, last⟩, others, h⟩ := Checked.bind_eq_ok.mp h
    cases h
    exact ih (step s next time report start first) others

end Steps

end Simulation

end MeshNet
