import MeshNet.Condition.Error
import MeshNet.Random.Draw

namespace MeshNet

structure LossModel where
  probability : Float := 0.0
  burstMode : Bool := false
  burstLength : UInt32 := 1
deriving BEq

namespace LossModel

def Valid (m : LossModel) : Prop :=
  Random.IsProbability m.probability ∧ (m.burstMode = true → m.burstLength ≠ 0)

instance (m : LossModel) : Decidable m.Valid := inferInstanceAs (Decidable (_ ∧ _))

def lossless : {m : LossModel // m.Valid} := ⟨{}, by decide⟩

def check (m : LossModel) : Except ConditionError {m : LossModel // m.Valid} :=
  if hp : Random.IsProbability m.probability then
    if hb : m.burstMode = true → m.burstLength ≠ 0 then .ok ⟨m, hp, hb⟩ else .error .burstLength
  else .error (.lossProbability m.probability)

theorem check_of_valid {m : LossModel} (h : m.Valid) : m.check = .ok ⟨m, h⟩ := by
  rw [check, dif_pos h.1, dif_pos h.2]

theorem check_ok_iff {m : LossModel} : (∃ v, m.check = .ok v) ↔ m.Valid := by
  refine ⟨fun ⟨v, hv⟩ => ?_, fun h => ⟨_, check_of_valid h⟩⟩
  simp only [check] at hv
  split at hv
  · split at hv
    · exact ⟨‹_›, ‹_›⟩
    · cases hv
  · cases hv

def independent (p : Float) : Except ConditionError {m : LossModel // m.Valid} :=
  check { probability := p }

def burst (p : Float) (length : UInt32) : Except ConditionError {m : LossModel // m.Valid} :=
  check { probability := p, burstMode := true, burstLength := length }

open MeshNet.Random in
def begins (m : LossModel) : Draw Bool :=
  if 0.0 < m.probability then chance m.probability else return false

end LossModel

end MeshNet
