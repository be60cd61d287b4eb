import MeshNet.Condition.Error
import MeshNet.Random.Ziggurat

namespace MeshNet

inductive Distribution where
  | uniform
  | normal
  | exponential
deriving DecidableEq, Repr

namespace Distribution

def name : Distribution → String
  | uniform => "uniform"
  | normal => "normal"
  | exponential => "exponential"

def ofName? : String → Option Distribution
  | "uniform" => some uniform
  | "normal" => some normal
  | "gaussian" => some normal
  | "exponential" => some exponential
  | _ => none

def ofText (text : String) : Except ConditionError Distribution :=
  match ofName? text.toLower with
  | some d => .ok d
  | none => .error (.unknownDistribution text)

@[simp] theorem ofName?_name (d : Distribution) : ofName? d.name = some d := by
  cases d <;> rfl

end Distribution

structure LatencyModel where
  min : UInt32 := 10
  max : UInt32 := 50
  distribution : Distribution := .normal
deriving DecidableEq, Repr

namespace LatencyModel

def Valid (m : LatencyModel) : Prop := m.min ≤ m.max

instance (m : LatencyModel) : Decidable m.Valid := inferInstanceAs (Decidable (_ ≤ _))

def usual : {m : LatencyModel // m.Valid} := ⟨{}, by decide⟩

def fixed (latency : UInt32) : LatencyModel := ⟨latency, latency, .uniform⟩

theorem valid_fixed (latency : UInt32) : (fixed latency).Valid := UInt32.le_refl latency

def check (m : LatencyModel) : Except ConditionError {m : LatencyModel // m.Valid} :=
  if h : m.Valid then .ok ⟨m, h⟩ else .error (.latencyBounds m.min m.max)

theorem check_of_valid {m : LatencyModel} (h : m.Valid) : m.check = .ok ⟨m, h⟩ := dif_pos h

theorem check_of_not_valid {m : LatencyModel} (h : ¬ m.Valid) :
    m.check = .error (.latencyBounds m.min m.max) := dif_neg h

def nearest (m : LatencyModel) (x : Float) : UInt32 :=
  match Decimal.Binary.ofFloat x with
  | .finite false n q => .ofNat (Max.max m.min.toNat (Min.min m.max.toNat
      (Decimal.Binary.nearestNat .up n q)))
  | .infinite false => m.max
  | _ => m.min

open MeshNet.Random in
def sample (m : LatencyModel) : Draw UInt32 := do
  if m.max ≤ m.min then return m.min
  let low := m.min.toFloat
  let width := (m.max - m.min).toFloat
  match m.distribution with
  | .uniform => between m.min m.max
  | .normal => return m.nearest (low + width / 2.0 + width / 6.0 * (← normal).getD 0.0)
  | .exponential => return m.nearest (low + (← exponential).getD 0.0 * (1.0 / (2.0 / width)))

theorem sample_of_le {m : LatencyModel} (h : m.max ≤ m.min) : m.sample = pure m.min := by
  simp [sample, h]

end LatencyModel

end MeshNet
