import MeshNet.Proofs.Fleet.Nodewise
import MeshNet.Proofs.Reach.Run

namespace MeshNet

def FleetOp.time? {φ : Type} : FleetOp φ → Option Time
  | remove _ now | startAll now | stopAll now | adjustTime _ now _ => some now
  | call _ op => some op.time
  | add _ | create _ _ | shutdown => none

def MeshOp.time? {φ : Type} : MeshOp φ → Option Time
  | execute _ now | update now => some now
  | fleet op => op.time?
  | network _ => none

variable {φ : Type}

namespace Fleet

variable {f g : Fleet φ} {now : Time}

theorem lastSeen_each {act : Node φ → Checked (Node φ)} (h : f.each act = .ok g) :
    g.lastSeen = f.lastSeen := by
  obtain ⟨nodes, -, h⟩ := Checked.bind_eq_ok.mp h
  cases h
  rfl

theorem lastSeen_revise {id : NodeId} {act : Node φ → Checked (Node φ)}
    (h : f.revise id act = .ok g) : g.lastSeen = f.lastSeen := by
  rw [revise] at h
  split at h
  · cases h
    rfl
  · obtain ⟨n, -, rfl⟩ := Checked.map_eq_ok.mp h
    rfl

theorem lastSeen_assignGroups (f : Fleet φ) (groups : Groups) :
    (f.assignGroups groups).lastSeen = f.lastSeen :=
  assignGroups_induction (P := fun g => g.lastSeen = f.lastSeen) rfl (fun _ _ _ h => h) groups

theorem lastSeen_stopAll {stopped : Nat} (h : f.stopAll now = .ok (stopped, g)) :
    g.lastSeen = max f.lastSeen now := by
  obtain ⟨k, he, h⟩ := Checked.bind_eq_ok.mp h
  cases h
  exact lastSeen_each he

theorem lastSeen_remove {id : NodeId} {removed : Option (Node φ)}
    (h : f.remove id now = .ok (removed, g)) : g.lastSeen = max f.lastSeen now := by
  rw [remove] at h
  split at h
  · cases h
    rfl
  · obtain ⟨n, -, h⟩ := Checked.bind_eq_ok.mp h
    cases h
    rfl

variable [Firmware φ]

theorem lastSeen_startAll {started : Nat} (h : f.startAll now = .ok (started, g)) :
    g.lastSeen = max f.lastSeen now := by
  obtain ⟨k, he, h⟩ := Checked.bind_eq_ok.mp h
  cases h
  exact lastSeen_each he

theorem lastSeen_step {op : FleetOp φ} (h : f.step op = .ok g) :
    g.lastSeen = f.lastSeen ∨ ∃ t ∈ op.time?, g.lastSeen = max f.lastSeen t := by
  cases op with
  | add id =>
    cases h
    cases ha : f.add id with
    | error e => exact .inl rfl
    | ok k => exact .inl (gains_of_add ha).lastSeen
  | create catalogue spec =>
    cases h
    cases hc : f.create catalogue spec with
    | error e => exact .inl rfl
    | ok k => exact .inl (gains_of_create hc).lastSeen
  | remove id now =>
    obtain ⟨r, hr, rfl⟩ := Checked.map_eq_ok.mp h
    exact .inr ⟨now, rfl, lastSeen_remove hr⟩
  | startAll now =>
    obtain ⟨r, hr, rfl⟩ := Checked.map_eq_ok.mp h
    exact .inr ⟨now, rfl, lastSeen_startAll hr⟩
  | stopAll now =>
    obtain ⟨r, hr, rfl⟩ := Checked.map_eq_ok.mp h
    exact .inr ⟨now, rfl, lastSeen_stopAll hr⟩
  | shutdown =>
    obtain ⟨r, hr, rfl⟩ := Checked.map_eq_ok.mp h
    exact .inl ((lastSeen_stopAll hr).trans (Time.max_self _))
  | call id op | adjustTime id now offset => exact .inl (lastSeen_revise h)

theorem lastSeen_deliver {m : Message} {reached : Bool} (h : f.deliver now m = .ok (reached, g)) :
    g.lastSeen = f.lastSeen := by
  rw [deliver] at h
  split at h
  · cases h
    rfl
  · obtain ⟨received, -, h⟩ := Checked.bind_eq_ok.mp h
    cases received with
    | none | some n =>
      cases h
      rfl

theorem lastSeen_deliverAll {ms : List Message} {reached : List Bool}
    (h : deliverAll now ms f = .ok (reached, g)) : g.lastSeen = f.lastSeen := by
  induction ms generalizing f reached with
  | nil =>
    cases h
    rfl
  | cons m ms ih =>
    obtain ⟨⟨r, k⟩, first, h⟩ := Checked.bind_eq_ok.mp h
    obtain ⟨⟨rs, l⟩, rest, h⟩ := Checked.bind_eq_ok.mp h
    cases h
    exact (ih rest).trans (lastSeen_deliver first)

end Fleet

variable [Firmware φ] {mesh mesh' : Mesh φ} {now : Time}

theorem Mesh.lastSeen_update {report : UpdateReport} (h : mesh.update now = .ok (report, mesh')) :
    mesh'.fleet.lastSeen = max mesh.fleet.lastSeen now := by
  obtain ⟨reached, k, worked, -, rfl⟩ := update_eq_ok h
  obtain ⟨f, g, delivered, refreshed, ticked⟩ := work_eq_ok worked
  have told : f.lastSeen = (mesh.fleet.observe now).lastSeen := Fleet.lastSeen_deliverAll delivered
  rw [Fleet.refreshAll] at refreshed
  rw [Fleet.tickAll] at ticked
  exact (Fleet.lastSeen_each ticked).trans ((Fleet.lastSeen_each refreshed).trans told)

theorem Event.lastSeen_effect {e : Event} (h : e.effect now mesh = .ok mesh') :
    mesh'.fleet.lastSeen = mesh.fleet.lastSeen := by
  cases e with
  | start id | stop id graceful | crash id | restart id =>
    obtain ⟨fleet, hr, rfl⟩ := Checked.map_eq_ok.mp h
    exact Fleet.lastSeen_revise hr
  | drop l | restore l | heal =>
    cases h
    rfl
  | degrade l latency loss =>
    rw [effect] at h
    split at h
    · cases h
      rfl
    · cases h
      rfl
  | partition groups =>
    cases h
    exact Fleet.lastSeen_assignGroups mesh.fleet groups

namespace Mesh

theorem lastSeen_execute {e : Event} {events : List Event}
    (h : mesh.step (.execute e now) = .ok (events, mesh')) :
    mesh'.fleet.lastSeen = mesh.fleet.lastSeen := by
  rcases step_execute h with refused | ⟨-, -, changed⟩
  · cases refused
    rfl
  · exact Event.lastSeen_effect changed

theorem lastSeen_step {op : MeshOp φ} {events : List Event}
    (h : mesh.step op = .ok (events, mesh')) :
    mesh'.fleet.lastSeen = mesh.fleet.lastSeen ∨
      ∃ t ∈ op.time?, mesh'.fleet.lastSeen = max mesh.fleet.lastSeen t := by
  cases op with
  | execute e now => exact .inl (lastSeen_execute h)
  | update now =>
    obtain ⟨⟨report, next⟩, updated, h⟩ := Checked.bind_eq_ok.mp h
    cases h
    exact .inr ⟨now, rfl, lastSeen_update updated⟩
  | network op =>
    cases h
    exact .inl rfl
  | fleet op =>
    obtain ⟨fleet, stepped, h⟩ := Checked.bind_eq_ok.mp h
    cases h
    exact Fleet.lastSeen_step stepped

end Mesh

end MeshNet
