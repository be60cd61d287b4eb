import MeshNet.Fault
import MeshNet.Random.Generator

namespace MeshNet.Random

def word : Draw UInt64 := fun g => g.next

def halfWord : Draw UInt32 := return ((← word) >>> 32).toUInt32

def IsProbability (p : Float) : Prop := 0.0 ≤ p ∧ p ≤ 1.0

instance (p : Float) : Decidable (IsProbability p) := inferInstanceAs (Decidable (_ ∧ _))

def chance (p : Float) : Draw Bool := do
  if p == 1.0 then return true
  let threshold := (p * 18446744073709551616.0).toUInt64
  return (← word) < threshold

def checkedChance (p : Float) (g : Generator) : Checked (Bool × Generator) :=
  if IsProbability p then .ok (chance p g) else .error .invalidProbability

/-- An integer from `low` to `high`, both included; `low`, without a draw, if that range holds no
other. A second half word corrects the bias of the multiplication where the first one leaves it. -/
def between (low high : UInt32) : Draw UInt32 := do
  if high ≤ low then return low
  let size := high - low + 1
  if size = 0 then return ← halfWord
  let product := (← halfWord).toUInt64 * size.toUInt64
  let whole := (product >>> 32).toUInt32
  let part := product.toUInt32
  if part ≤ 0 - size then return low + whole
  let carry := ((← halfWord).toUInt64 * size.toUInt64) >>> 32
  return if part.toUInt64 + carry < 4294967296 then low + whole else low + whole + 1

def unit : Draw Float := return ((← word) >>> 11).toFloat * Float.ofBits 0x3ca0000000000000

def withFraction (base w : UInt64) : Float := Float.ofBits (base ||| (w >>> 12 : UInt64))

def openFraction (w : UInt64) : Float :=
  withFraction 0x3ff0000000000000 w - Float.ofBits 0x3fefffffffffffff

def openUnit : Draw Float := return openFraction (← word)

end MeshNet.Random
