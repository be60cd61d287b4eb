import Mathlib
import MeshNet.Proofs.Network.Offer

namespace MeshNet

namespace Random

theorem scaled_lt {x size : Nat} (word : x < 2 ^ 32) (some_size : 0 < size) :
    x * size / 2 ^ 32 < size ∧
      (2 ^ 32 - size < x * size % 2 ^ 32 → x * size / 2 ^ 32 + 1 < size) := by
  have product : x * size + size ≤ 2 ^ 32 * size := by
    rw [← Nat.succ_mul]
    exact Nat.mul_le_mul_right size word
  have parts := Nat.div_add_mod (x * size) (2 ^ 32)
  constructor
  · rw [Nat.div_lt_iff_lt_mul (by decide)]
    omega
  · intro carry
    by_contra last
    have top : size - 1 ≤ x * size / 2 ^ 32 := by omega
    omega

theorem toNat_scaled (x size : UInt32) :
    ((x.toUInt64 * size.toUInt64) >>> 32).toUInt32.toNat = x.toNat * size.toNat / 2 ^ 32 ∧
      (x.toUInt64 * size.toUInt64).toUInt32.toNat = x.toNat * size.toNat % 2 ^ 32 := by
  have fits : x.toNat * size.toNat < 2 ^ 64 := by
    have product := Nat.mul_le_mul (Nat.le_of_lt_succ x.toNat_lt) (Nat.le_of_lt_succ size.toNat_lt)
    omega
  have product : (x.toUInt64 * size.toUInt64).toNat = x.toNat * size.toNat := by
    rw [UInt64.toNat_mul, UInt32.toNat_toUInt64, UInt32.toNat_toUInt64, Nat.mod_eq_of_lt fits]
  constructor
  · rw [UInt64.toNat_toUInt32, UInt64.toNat_shiftRight, product]
    change (x.toNat * size.toNat) >>> 32 % 2 ^ 32 = _
    rw [Nat.shiftRight_eq_div_pow, Nat.mod_eq_of_lt]
    omega
  · rw [UInt64.toNat_toUInt32, product]

def offset (size x y : UInt32) : UInt32 :=
  let product := x.toUInt64 * size.toUInt64
  let whole := (product >>> 32).toUInt32
  let part := product.toUInt32
  if part ≤ 0 - size then whole
  else if part.toUInt64 + (y.toUInt64 * size.toUInt64) >>> 32 < 4294967296 then whole
  else whole + 1

theorem offset_lt {size : UInt32} (some_size : size ≠ 0) (x y : UInt32) :
    (offset size x y).toNat < size.toNat := by
  have positive : 0 < size.toNat :=
    Nat.pos_of_ne_zero fun zero => some_size (UInt32.toNat_inj.mp zero)
  obtain ⟨whole, part⟩ := toNat_scaled x size
  obtain ⟨inside, carried⟩ := scaled_lt x.toNat_lt positive
  rw [offset]
  split
  · rwa [whole]
  · next carry =>
    have top := size.toNat_lt
    have negated : (0 - size).toNat = 2 ^ 32 - size.toNat := by
      rw [UInt32.toNat_sub, UInt32.toNat_zero]
      omega
    have carry := UInt32.lt_iff_toNat_lt.mp (UInt32.not_le.mp carry)
    rw [negated, part] at carry
    have room := carried carry
    split
    · rwa [whole]
    · rw [UInt32.toNat_add, whole, UInt32.toNat_one]
      omega

theorem between_eq {low high : UInt32} (h : low < high) (g : Generator) :
    (between low high g).1 =
      if high - low + 1 = 0 then (halfWord g).1
      else low + offset (high - low + 1) (halfWord g).1 (halfWord (halfWord g).2).1 := by
  rw [between, if_neg (UInt32.not_le.mpr h)]
  split
  · rfl
  · generalize high - low + 1 = size
    simp only [bind, StateT.bind, offset]
    obtain ⟨x, g⟩ := halfWord g
    dsimp only
    by_cases unbiased : (x.toUInt64 * size.toUInt64).toUInt32 ≤ 0 - size
    · rw [if_pos unbiased, if_pos unbiased]
      rfl
    · rw [if_neg unbiased, if_neg unbiased, apply_ite (low + ·), ← UInt32.add_assoc]
      rfl

theorem between_mem {low high : UInt32} (h : low ≤ high) (g : Generator) :
    low ≤ (between low high g).1 ∧ (between low high g).1 ≤ high := by
  by_cases narrow : high ≤ low
  · rw [between, if_pos narrow]
    exact ⟨UInt32.le_refl low, h⟩
  have wide : low < high := UInt32.not_le.mp narrow
  have below := UInt32.lt_iff_toNat_lt.mp wide
  have top := high.toNat_lt
  have span : (high - low + 1).toNat = (high.toNat - low.toNat + 1) % 2 ^ 32 := by
    rw [UInt32.toNat_add, UInt32.toNat_sub_of_le high low h, UInt32.toNat_one]
  rw [between_eq wide, UInt32.le_iff_toNat_le, UInt32.le_iff_toNat_le]
  split
  · next none =>
    -- The size of the range of all half words is not a half word.
    rw [none, UInt32.toNat_zero] at span
    have word := (halfWord g).1.toNat_lt
    omega
  · next some_size =>
    have inside := offset_lt some_size (halfWord g).1 (halfWord (halfWord g).2).1
    rw [UInt32.toNat_add]
    omega

end Random

namespace LatencyModel

variable {m : LatencyModel}

theorem nearest_mem (h : m.Valid) (x : Float) : m.min ≤ m.nearest x ∧ m.nearest x ≤ m.max := by
  rw [nearest]
  split
  · next n q _ =>
    have range := UInt32.le_iff_toNat_le.mp h
    have top := m.max.toNat_lt
    rw [UInt32.le_iff_toNat_le, UInt32.le_iff_toNat_le, UInt32.toNat_ofNat_of_lt']
    · omega
    · change _ < 2 ^ 32
      omega
  · exact ⟨h, UInt32.le_refl m.max⟩
  · exact ⟨UInt32.le_refl m.min, h⟩

theorem sample_mem (h : m.Valid) (g : Random.Generator) :
    m.min ≤ (m.sample g).1 ∧ (m.sample g).1 ≤ m.max := by
  rw [sample]
  split
  · exact ⟨UInt32.le_refl m.min, h⟩
  · cases m.distribution with
    | uniform => exact Random.between_mem h g
    | normal | exponential => exact nearest_mem h _

end LatencyModel

namespace Conditions

theorem latencyFor_sampleDrop (c : Conditions) (cuts : Cuts) (k l : Link) :
    (c.sampleDrop cuts k).2.latencyFor l = c.latencyFor l :=
  congrArg (·.latencyFor l) (c.models_sampleDrop cuts k)

theorem sampleFate_eq_some {c : Conditions} {cuts : Cuts} {l : Link} {latency : UInt32}
    (h : (c.sampleFate cuts l).1 = some latency) :
    latency = ((c.latencyFor l).val.sample (c.sampleDrop cuts l).2.source.generator).1 := by
  have model := c.latencyFor_sampleDrop cuts l l
  rw [sampleFate] at h
  revert h model
  obtain ⟨_ | _, rest⟩ := c.sampleDrop cuts l
  · intro h model
    rw [← model]
    exact (Option.some.inj h).symm
  · intro h
    cases h

end Conditions

namespace Network

theorem delivery_respects_latency {n : Network} {m : Message} {now time : Time}
    (admitted : (n.enqueue m now).1 = some time) :
    let model := (n.conditions.latencyFor m.link).val
    min (now.toNat + model.min.toNat) Time.last ≤ time.toNat ∧
    time.toNat ≤ min (now.toNat + model.max.toNat) Time.last ∧
    (model.min = model.max → time.toNat = min (now.toNat + model.min.toNat) Time.last) ∧
    (∃ latency : UInt32,
      latency = (model.sample (n.drops m.link).2.conditions.source.generator).1 ∧
      model.min ≤ latency ∧ latency ≤ model.max ∧ time = now.advance latency.toUInt64 ∧
      (n.enqueue m now).2.inFlight = n.inFlight.insert time m ∧
      (n.enqueue m now).2.traffic = n.traffic.update m.link (·.record latency)) ∧
    ∀ (other : LatencyModel) (g : Random.Generator), other.Valid →
      other.min ≤ (other.sample g).1 ∧ (other.sample g).1 ≤ other.max := by
  intro model
  obtain ⟨dropped, -⟩ | ⟨latency, told, waits, recorded, fate⟩ := n.enqueue_cases m now
  · rw [dropped] at admitted
    cases admitted
  obtain rfl : now.advance latency.toUInt64 = time := Option.some.inj (told.symm.trans admitted)
  have drawn := Conditions.sampleFate_eq_some fate
  have range : model.min ≤ latency ∧ latency ≤ model.max := by
    rw [drawn]
    exact LatencyModel.sample_mem (n.conditions.latencyFor m.link).property _
  have low := UInt32.le_iff_toNat_le.mp range.1
  have high := UInt32.le_iff_toNat_le.mp range.2
  have late : (now.advance latency.toUInt64).toNat = min (now.toNat + latency.toNat) Time.last := by
    rw [Time.toNat_advance, UInt32.toNat_toUInt64]
  refine ⟨by omega, by omega, fun single => ?_,
    ⟨latency, ?_, range.1, range.2, rfl, waits, recorded⟩,
    fun other g valid => LatencyModel.sample_mem valid g⟩
  · rw [← single] at high
    omega
  · rw [drops_eq]
    exact drawn

theorem delivery_respects_latency_of_all_words :
    let m : Message := ⟨⟨⟨1⟩, ⟨2⟩⟩, [7]⟩
    let all : Network :=
      { conditions :=
          { defaultLatency := ⟨⟨0, 4294967295, .uniform⟩, by decide⟩, source := .seeded 1 } }
    let certain : Network :=
      { conditions :=
          { defaultLatency := ⟨.fixed 20, LatencyModel.valid_fixed 20⟩, source := .seeded 1 } }
    (all.enqueue m 5).1 = some 3485847684 ∧ min (5 + 0) Time.last ≤ 3485847684 ∧
      3485847684 ≤ min (5 + 4294967295) Time.last ∧
      (certain.enqueue m 18446744073709551600).1 = some 18446744073709551615 ∧
      18446744073709551615 = min (18446744073709551600 + 20) Time.last := by
  intro m all certain
  have drawn : (all.enqueue m 5).1 = some 3485847684 := by decide +kernel
  have last : (certain.enqueue m 18446744073709551600).1 = some 18446744073709551615 := by
    decide +kernel
  exact ⟨drawn, (delivery_respects_latency drawn).1, (delivery_respects_latency drawn).2.1, last,
    (delivery_respects_latency last).2.2.1 rfl⟩

end Network

end MeshNet
