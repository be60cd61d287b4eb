import MeshNet.Proofs.Partition.Law

namespace MeshNet

namespace Groups

end Groups

namespace Fleet

variable {φ : Type}

structure Retagged (tag : NodeId → UInt32 → UInt32) (f g : Fleet φ) : Prop where
  find? : ∀ id, g.find? id = (f.find? id).map fun n => { n with partition := tag id n.partition }
  retired : g.retired = f.retired
  lastSeen : g.lastSeen = f.lastSeen

namespace Retagged

variable {f g : Fleet φ} {tag : NodeId → UInt32 → UInt32}

theorem assignGroups (f : Fleet φ) {groups : Groups} (nodup : groups.flatten.Nodup) :
    f.Retagged (fun id old => (groups.tag? id).getD old) (f.assignGroups groups) := by
  have kept : (f.assignGroups groups).retired = f.retired ∧
      (f.assignGroups groups).lastSeen = f.lastSeen :=
    assignGroups_induction (P := fun g => g.retired = f.retired ∧ g.lastSeen = f.lastSeen)
      ⟨rfl, rfl⟩ (fun _ _ _ h => h) groups
  exact ⟨find?_assignGroups f nodup, kept.1, kept.2⟩

theorem cleared (f : Fleet φ) :
    f.Retagged (fun _ _ => 0) (f.map fun n => { n with partition := 0 }) :=
  ⟨find?_map f _, rfl, rfl⟩

end Retagged

end Fleet

namespace Event

variable {φ : Type} [Firmware φ] {mesh : Mesh φ} {now : Time}

end Event

namespace Mesh

variable {φ : Type}

end Mesh

namespace Event

end Event

namespace Mesh

variable {φ : Type} [Firmware φ]

end Mesh

end MeshNet
