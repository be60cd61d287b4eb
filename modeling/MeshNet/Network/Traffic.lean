import Std.Data.ExtTreeMap
import MeshNet.Link

namespace MeshNet

structure LinkStats where
  delivered : Nat := 0
  dropped : Nat := 0
  /-- The smallest latency, zero before the first message. -/
  min : UInt32 := 0
  max : UInt32 := 0
  total : Nat := 0
deriving DecidableEq, Repr, Inhabited

namespace LinkStats

def average (s : LinkStats) : UInt32 :=
  if s.delivered = 0 then 0 else .ofNat (s.total / s.delivered)

def record (s : LinkStats) (latency : UInt32) : LinkStats :=
  { s with
    delivered := s.delivered + 1
    min := if s.delivered = 0 then latency else Min.min s.min latency
    max := if s.delivered = 0 then latency else Max.max s.max latency
    total := s.total + latency.toNat }

def drop (s : LinkStats) : LinkStats := { s with dropped := s.dropped + 1 }

@[simp] theorem delivered_record (s : LinkStats) (latency : UInt32) :
    (s.record latency).delivered = s.delivered + 1 := rfl

@[simp] theorem dropped_record (s : LinkStats) (latency : UInt32) :
    (s.record latency).dropped = s.dropped := rfl

@[simp] theorem delivered_drop (s : LinkStats) : s.drop.delivered = s.delivered := rfl

@[simp] theorem dropped_drop (s : LinkStats) : s.drop.dropped = s.dropped + 1 := rfl

def merge (s t : LinkStats) : LinkStats where
  delivered := s.delivered + t.delivered
  dropped := s.dropped + t.dropped
  min := if t.delivered = 0 then s.min else if s.delivered = 0 then t.min else Min.min s.min t.min
  max := if t.delivered = 0 then s.max else if s.delivered = 0 then t.max else Max.max s.max t.max
  total := s.total + t.total

@[simp] theorem merge_empty (s : LinkStats) : s.merge {} = s := rfl

theorem record_eq_merge (s : LinkStats) (latency : UInt32) :
    s.record latency = s.merge (({} : LinkStats).record latency) := by
  simp [record, merge]

end LinkStats

structure Traffic where
  stats : Std.ExtTreeMap Link LinkStats := ∅

namespace Traffic

instance : EmptyCollection Traffic := ⟨{}⟩

def on (t : Traffic) (l : Link) : LinkStats := t.stats[l]?.getD {}

def update (t : Traffic) (l : Link) (f : LinkStats → LinkStats) : Traffic :=
  ⟨t.stats.insert l (f (t.on l))⟩

def total (t : Traffic) : LinkStats := t.stats.values.foldl .merge {}

theorem on_update (t : Traffic) (k l : Link) (f : LinkStats → LinkStats) :
    (t.update l f).on k = if l = k then f (t.on l) else t.on k := by
  simp only [update, Traffic.on, Std.ExtTreeMap.getElem?_insert, Std.compare_eq_iff_eq]
  split <;> rfl

end Traffic

end MeshNet
