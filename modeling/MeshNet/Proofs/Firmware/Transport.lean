import MeshNet.Proofs.Firmware.Morphism
import MeshNet.Proofs.Reach.Run

namespace MeshNet

section Map

variable {φ ψ : Type} (f : ψ → φ)

def Mesh.mapFirmware (mesh : Mesh ψ) : Mesh φ := { mesh with fleet := mesh.fleet.mapFirmware f }

def FleetOp.mapFirmware : FleetOp ψ → FleetOp φ
  | add id => add id
  | create catalogue spec => create (catalogue.map f) spec
  | remove id now => remove id now
  | startAll now => startAll now
  | stopAll now => stopAll now
  | shutdown => shutdown
  | call id op => call id op
  | adjustTime id now offset => adjustTime id now offset

def MeshOp.mapFirmware : MeshOp ψ → MeshOp φ
  | execute e now => execute e now
  | update now => update now
  | network op => network op
  | fleet op => fleet (op.mapFirmware f)

end Map

namespace Fleet

section Operations

variable {φ ψ : Type} [Firmware φ] [Firmware ψ] (h : Firmware.Morphism ψ φ) (f : Fleet ψ)

theorem obstacle?_mapFirmware (id : NodeId) :
    (f.mapFirmware h.state).obstacle? id = f.obstacle? id := by
  rw [obstacle?, obstacle?, contains_mapFirmware, size_mapFirmware]
  rfl

theorem add_mapFirmware (id : NodeId) :
    (f.mapFirmware h.state).add id = (f.add id).map (mapFirmware h.state) := by
  rw [add, add, obstacle?_mapFirmware]
  cases f.obstacle? id with
  | some e => rfl
  | none => exact congrArg Except.ok (f.insert_mapFirmware h.state id { id }).symm

theorem create_mapFirmware (catalogue : Catalogue ψ) (spec : NodeSpec) :
    (f.mapFirmware h.state).create (catalogue.map h.state) spec =
      (f.create catalogue spec).map (mapFirmware h.state) := by
  have names : (catalogue.map h.state).names = catalogue.names := Std.ExtTreeMap.keys_map
  rw [create, create, obstacle?_mapFirmware]
  cases f.obstacle? spec.id with
  | some e => rfl
  | none =>
    cases spec.firmware with
    | none => exact congrArg Except.ok (f.insert_mapFirmware h.state spec.id { id := spec.id }).symm
    | some name =>
      have entry : (catalogue.map h.state).entries[name]? =
          (catalogue.entries[name]?).map h.state := Std.ExtTreeMap.getElem?_map
      simp only [Catalogue.create, entry, names]
      cases catalogue.entries[name]? with
      | none => rfl
      | some firmware =>
        exact congrArg Except.ok (f.insert_mapFirmware h.state spec.id
          { id := spec.id, device := some { firmware, settings := spec.settings } }).symm

theorem remove_mapFirmware (id : NodeId) (now : Time) :
    (·.2) <$> (f.mapFirmware h.state).remove id now =
      (fun r => r.2.mapFirmware h.state) <$> f.remove id now := by
  have found : ((f.mapFirmware h.state).observe now).find? id =
      ((f.observe now).find? id).map (·.mapFirmware h.state) :=
    find?_mapFirmware h.state (f.observe now) id
  simp only [remove, found]
  cases (f.observe now).find? id with
  | none => rfl
  | some n =>
    simp only [Option.map_some, n.stop_mapFirmware]
    cases n.stop now with
    | error fault => rfl
    | ok m =>
      simp only [Checked.map_ok, Checked.ok_bind, Checked.pure_def, mapFirmware, map_erase]
      rfl

theorem startAll_mapFirmware (now : Time) :
    (f.mapFirmware h.state).startAll now =
      (fun r => (r.1, r.2.mapFirmware h.state)) <$> f.startAll now := by
  have each : ((f.observe now).mapFirmware h.state).each
      (fun n => if n.isRunning then .ok n else n.boot now) =
        mapFirmware h.state <$> (f.observe now).each
          fun n => if n.isRunning then .ok n else n.boot now := by
    refine each_mapFirmware h.state (f.observe now) fun n => ?_
    rw [Node.isRunning_mapFirmware, Node.boot_mapFirmware]
    split <;> rfl
  rw [startAll, startAll, size_mapFirmware, running, running, runningIds_mapFirmware]
  refine (congrArg (· >>= _) each).trans ?_
  cases (f.observe now).each fun n => if n.isRunning then .ok n else n.boot now <;> rfl

theorem stopAll_mapFirmware (now : Time) :
    (f.mapFirmware h.state).stopAll now =
      (fun r => (r.1, r.2.mapFirmware h.state)) <$> f.stopAll now := by
  have each : ((f.observe now).mapFirmware h.state).each (·.stop now) =
      mapFirmware h.state <$> (f.observe now).each (·.stop now) :=
    each_mapFirmware h.state (f.observe now) fun n => n.stop_mapFirmware h.state now
  rw [stopAll, stopAll, running, running, runningIds_mapFirmware]
  refine (congrArg (· >>= _) each).trans ?_
  cases (f.observe now).each fun n => n.stop now <;> rfl

theorem step_mapFirmware (op : FleetOp ψ) :
    (f.mapFirmware h.state).step (op.mapFirmware h.state) = mapFirmware h.state <$> f.step op := by
  cases op with
  | add id =>
    refine congrArg Except.ok ?_
    rw [add_mapFirmware]
    cases f.add id <;> rfl
  | create catalogue spec =>
    refine congrArg Except.ok ?_
    rw [create_mapFirmware]
    cases f.create catalogue spec <;> rfl
  | remove id now => 
    refine (f.remove_mapFirmware h id now).trans ?_
    rw [step, Functor.map_map]
  | startAll now =>
    refine (congrArg ((·.2) <$> ·) (f.startAll_mapFirmware h now)).trans ?_
    rw [step, Functor.map_map, Functor.map_map]
  | stopAll now =>
    refine (congrArg ((·.2) <$> ·) (f.stopAll_mapFirmware h now)).trans ?_
    rw [step, Functor.map_map, Functor.map_map]
  | shutdown =>
    refine (congrArg ((·.2) <$> ·) (f.stopAll_mapFirmware h f.lastSeen)).trans ?_
    rw [step, shutdown, Functor.map_map, Functor.map_map]
  | call id op =>
    refine revise_mapFirmware h.state f (fun n => ?_) id
    rw [n.step_mapFirmware h op, Functor.map_map]
  | adjustTime id now offset =>
    exact revise_mapFirmware h.state f (fun n => n.call_mapFirmware h now _) id

theorem deliver_mapFirmware (now : Time) (m : Message) :
    (f.mapFirmware h.state).deliver now m =
      (fun r => (r.1, r.2.mapFirmware h.state)) <$> f.deliver now m := by
  rw [deliver, deliver, find?_mapFirmware]
  cases f.find? m.link.target with
  | none => rfl
  | some n =>
    simp only [Option.map_some, n.deliver_mapFirmware h]
    cases n.deliver now m with
    | error fault => rfl
    | ok received =>
      cases received with
      | none => rfl
      | some n' =>
        simp only [Checked.map_ok, Checked.ok_bind, Option.map_some, Checked.pure_def,
          insert_mapFirmware]

theorem deliverAll_mapFirmware (now : Time) (ms : List Message) :
    deliverAll now ms (f.mapFirmware h.state) =
      (fun r => (r.1, r.2.mapFirmware h.state)) <$> deliverAll now ms f := by
  induction ms generalizing f with
  | nil => rfl
  | cons m ms ih =>
    rw [deliverAll, deliverAll, deliver_mapFirmware]
    cases f.deliver now m with
    | error fault => rfl
    | ok r =>
      simp only [Checked.map_ok, Checked.ok_bind, ih]
      cases deliverAll now ms r.2 <;> rfl

theorem refreshAll_mapFirmware (now : Time) (cuts : Cuts) :
    (f.mapFirmware h.state).refreshAll now cuts =
      mapFirmware h.state <$> f.refreshAll now cuts := by
  rw [refreshAll, refreshAll, runningIds_mapFirmware]
  refine each_mapFirmware h.state f fun n => ?_
  rw [Node.isRunning_mapFirmware, Node.refreshPeers_mapFirmware]
  split <;> rfl

theorem tickAll_mapFirmware (now : Time) :
    (f.mapFirmware h.state).tickAll now = mapFirmware h.state <$> f.tickAll now :=
  each_mapFirmware h.state f fun n => n.call_mapFirmware h now .tick

end Operations

end Fleet

namespace Mesh

variable {φ ψ : Type} [Firmware φ] [Firmware ψ] (h : Firmware.Morphism ψ φ) (mesh : Mesh ψ)

theorem work_mapFirmware (f : Fleet ψ) (arrived : List Message) (cuts : Cuts) (now : Time) :
    work (f.mapFirmware h.state) arrived cuts now =
      (fun r => (r.1, r.2.mapFirmware h.state)) <$> work f arrived cuts now := by
  have delivered := (f.observe now).deliverAll_mapFirmware h now arrived
  rw [work, work]
  refine (congrArg (· >>= _) delivered).trans ?_
  cases (f.observe now).deliverAll now arrived with
  | error fault => rfl
  | ok r =>
    simp only [Checked.map_ok, Checked.ok_bind, Fleet.refreshAll_mapFirmware]
    cases r.2.refreshAll now cuts with
    | error fault => rfl
    | ok g =>
      simp only [Checked.map_ok, Checked.ok_bind, Fleet.tickAll_mapFirmware]
      cases g.tickAll now <;> rfl

theorem update_mapFirmware (now : Time) :
    (mesh.mapFirmware h.state).update now =
      (fun r => (r.1, r.2.mapFirmware h.state)) <$> mesh.update now := by
  have worked := work_mapFirmware h mesh.fleet ((mesh.network.drain now).1.map (·.2))
    mesh.network.cuts now
  refine (congrArg (· >>= _) worked).trans ?_
  have original : mesh.update now =
      work mesh.fleet ((mesh.network.drain now).1.map (·.2)) mesh.network.cuts now >>= _ := rfl
  rw [original]
  cases work mesh.fleet ((mesh.network.drain now).1.map (·.2)) mesh.network.cuts now with
  | error fault => rfl
  | ok r =>
    have flushed : (r.2.mapFirmware h.state).map .flush = (r.2.map .flush).mapFirmware h.state :=
      Fleet.map_mapFirmware h.state r.2 (·.flush_mapFirmware h.state)
    simp only [Checked.map_ok, Checked.ok_bind, Checked.pure_def, Fleet.unsent_mapFirmware, flushed]
    rfl

theorem effect_mapFirmware (e : Event) (now : Time) :
    e.effect now (mesh.mapFirmware h.state) = mapFirmware h.state <$> e.effect now mesh := by
  have revised {act : Node ψ → Checked (Node ψ)} {act' : Node φ → Checked (Node φ)}
      (natural : ∀ n, act' (n.mapFirmware h.state) = Node.mapFirmware h.state <$> act n)
      (id : NodeId) :
      (fun fleet => { mesh.mapFirmware h.state with fleet } : Fleet φ → Mesh φ) <$>
          (mesh.fleet.mapFirmware h.state).revise id act' =
        mapFirmware h.state <$> (fun fleet => { mesh with fleet }) <$>
          mesh.fleet.revise id act := by
    rw [Fleet.revise_mapFirmware h.state mesh.fleet natural]
    cases mesh.fleet.revise id act <;> rfl
  cases e with
  | start id =>
    refine revised (fun n => ?_) id
    rw [Node.isRunning_mapFirmware, Node.boot_mapFirmware]
    split <;> rfl
  | stop id graceful => exact revised (fun n => n.stop_mapFirmware h.state now) id
  | crash id => exact revised (fun n => n.crash_mapFirmware h.state now) id
  | restart id => exact revised (fun n => n.reboot_mapFirmware h now) id
  | drop l | restore l => rfl
  | degrade l latency loss =>
    rw [Event.effect, Event.effect]
    split <;> rfl
  | partition groups =>
    have assigned := mesh.fleet.assignGroups_mapFirmware h.state groups
    exact congrArg Except.ok (congrArg₂ Mesh.mk assigned rfl)
  | heal =>
    have cleared : (mesh.fleet.mapFirmware h.state).map (fun n => { n with partition := 0 }) =
        (mesh.fleet.map fun n => { n with partition := 0 }).mapFirmware h.state :=
      Fleet.map_mapFirmware h.state mesh.fleet fun _ => rfl
    exact congrArg Except.ok (congrArg₂ Mesh.mk cleared rfl)

theorem refusal?_mapFirmware (e : Event) :
    e.refusal? (mesh.fleet.mapFirmware h.state) = e.refusal? mesh.fleet := by
  cases e <;> simp only [Event.refusal?, Fleet.contains_mapFirmware]

theorem step_mapFirmware (op : MeshOp ψ) :
    (mesh.mapFirmware h.state).step (op.mapFirmware h.state) =
      (fun r => (r.1, r.2.mapFirmware h.state)) <$> mesh.step op := by
  cases op with
  | execute e now =>
    have performed : ((e.perform now).run.run (mesh.mapFirmware h.state) : Checked _) =
        (fun r => (r.1, r.2.mapFirmware h.state)) <$> (e.perform now).run.run mesh := by
      have refused : e.refusal? (mesh.mapFirmware h.state).fleet = e.refusal? mesh.fleet :=
        mesh.refusal?_mapFirmware h e
      rw [Event.perform_eq, Event.perform_eq, refused, effect_mapFirmware]
      cases e.refusal? mesh.fleet with
      | some error => rfl
      | none => cases e.effect now mesh <;> rfl
    rw [MeshOp.mapFirmware, step, performed, step]
    cases ((e.perform now).run.run mesh : Checked _) <;> rfl
  | update now =>
    rw [MeshOp.mapFirmware, step, update_mapFirmware, step]
    cases mesh.update now <;> rfl
  | network op => rfl
  | fleet op =>
    have stepped := mesh.fleet.step_mapFirmware h op
    rw [MeshOp.mapFirmware, step, step]
    refine (congrArg (· >>= _) stepped).trans ?_
    cases mesh.fleet.step op <;> rfl

theorem steps_mapFirmware (ops : List (MeshOp ψ)) :
    steps (ops.map (·.mapFirmware h.state)) (mesh.mapFirmware h.state) =
      (fun r => (r.1, r.2.mapFirmware h.state)) <$> steps ops mesh := by
  induction ops generalizing mesh with
  | nil => rfl
  | cons op ops ih =>
    rw [List.map_cons, steps, step_mapFirmware, steps]
    cases mesh.step op with
    | error fault => rfl
    | ok r =>
      simp only [Checked.map_ok, Checked.ok_bind, ih]
      cases steps ops r.2 <;> rfl

end Mesh

end MeshNet
