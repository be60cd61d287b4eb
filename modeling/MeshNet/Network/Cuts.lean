import Std.Data.ExtTreeSet
import MeshNet.Link

namespace MeshNet

structure Cuts where
  links : Std.ExtTreeSet Link := ∅

namespace Cuts

instance : EmptyCollection Cuts := ⟨{}⟩

def active (s : Cuts) (l : Link) : Bool := !s.links.contains l

def cut (s : Cuts) (l : Link) : Cuts := ⟨s.links.insert l⟩

def mend (s : Cuts) (l : Link) : Cuts := ⟨s.links.erase l⟩

def cutBoth (s : Cuts) (l : Link) : Cuts := (s.cut l).cut l.reverse

def mendBoth (s : Cuts) (l : Link) : Cuts := (s.mend l).mend l.reverse

def toList (s : Cuts) : List Link := s.links.toList

def size (s : Cuts) : Nat := s.links.size

theorem active_iff {s : Cuts} {l : Link} : s.active l = true ↔ l ∉ s.links := by
  simp [active, ← Std.ExtTreeSet.contains_iff_mem]

@[simp] theorem active_empty (l : Link) : (∅ : Cuts).active l = true := by
  rw [active_iff]; exact Std.ExtTreeSet.not_mem_empty

theorem mem_cut {s : Cuts} {k l : Link} : k ∈ (s.cut l).links ↔ k = l ∨ k ∈ s.links := by
  rw [cut, Std.ExtTreeSet.mem_insert, Std.compare_eq_iff_eq, eq_comm]

theorem mem_mend {s : Cuts} {k l : Link} : k ∈ (s.mend l).links ↔ k ≠ l ∧ k ∈ s.links := by
  rw [mend, Std.ExtTreeSet.mem_erase, Ne, Std.compare_eq_iff_eq, eq_comm]

theorem mem_cutBoth {s : Cuts} {k l : Link} :
    k ∈ (s.cutBoth l).links ↔ k = l.reverse ∨ k = l ∨ k ∈ s.links := by
  rw [cutBoth, mem_cut, mem_cut]

end Cuts

end MeshNet
