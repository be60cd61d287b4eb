import MeshNet.Event.Effect
import MeshNet.Proofs.Conservation.Sum
import MeshNet.Proofs.Event.Outcome
import MeshNet.Proofs.Node.Uptime

namespace MeshNet

structure Firmware.Morphism (ψ φ : Type) [Firmware ψ] [Firmware φ] where
  state : ψ → φ
  react : ∀ s v c, Firmware.react (state s) v c = Reaction.map state <$> Firmware.react s v c

section Map

variable {φ ψ : Type} (f : ψ → φ)

def Device.map (d : Device ψ) : Device φ := ⟨f d.firmware, d.settings⟩

def Node.mapFirmware (n : Node ψ) : Node φ := { n with device := n.device.map (·.map f) }

def Fleet.mapFirmware (fleet : Fleet ψ) : Fleet φ :=
  { fleet with nodes := fleet.nodes.map fun _ n => n.mapFirmware f }

end Map

namespace Node

variable {φ ψ : Type} (f : ψ → φ) (n : Node ψ)

@[simp] theorem isRunning_mapFirmware : (n.mapFirmware f).isRunning = n.isRunning := rfl

theorem flush_mapFirmware : (n.mapFirmware f).flush = n.flush.mapFirmware f := rfl

theorem stop_mapFirmware (now : Time) :
    (n.mapFirmware f).stop now = mapFirmware f <$> n.stop now := by
  obtain ⟨id, device, session, tag, metrics⟩ := n
  cases session with
  | none => rfl
  | some session =>
    simp only [stop, mapFirmware]
    cases Fault.uptimeOverflow.require (metrics.uptime.advance? (session.startedAt.elapsed now)) <;>
      rfl

theorem crash_mapFirmware (now : Time) :
    (n.mapFirmware f).crash now = mapFirmware f <$> n.crash now := by
  rw [crash, crash, isRunning_mapFirmware, stop_mapFirmware]
  cases n.isRunning with
  | false => rfl
  | true => cases n.stop now <;> rfl

variable [Firmware φ] [Firmware ψ] (h : Firmware.Morphism ψ φ)

theorem call_mapFirmware (now : Time) (c : Callback) :
    (n.mapFirmware h.state).call now c = mapFirmware h.state <$> n.call now c := by
  obtain ⟨id, device, session, tag, metrics⟩ := n
  cases device with
  | none => rfl
  | some device =>
    cases session with
    | none => rfl
    | some session =>
      simp only [call, mapFirmware, Option.map_some, Device.map, h.react]
      cases Firmware.react device.firmware ⟨id, now, device.settings, session.peers⟩ c <;> rfl

theorem boot_mapFirmware (now : Time) :
    (n.mapFirmware h.state).boot now = mapFirmware h.state <$> n.boot now :=
  call_mapFirmware { n with session := some { startedAt := now } } h now .setup

theorem reboot_mapFirmware (now : Time) :
    (n.mapFirmware h.state).reboot now = mapFirmware h.state <$> n.reboot now := by
  rw [reboot, reboot, stop_mapFirmware]
  cases n.stop now with
  | error fault => rfl
  | ok m => exact m.boot_mapFirmware h now

theorem deliver_mapFirmware (now : Time) (m : Message) :
    (n.mapFirmware h.state).deliver now m =
      Option.map (mapFirmware h.state) <$> n.deliver now m := by
  rw [deliver, deliver, isRunning_mapFirmware]
  cases n.isRunning with
  | false => rfl
  | true =>
    have received := call_mapFirmware { n with metrics := n.metrics.receive m.payload } h now
      (.receive m.link.source m.payload)
    rw [if_pos rfl, if_pos rfl]
    refine (congrArg (some <$> ·) received).trans ?_
    rw [Functor.map_map, Functor.map_map]
    rfl

theorem foldlM_call_mapFirmware (now : Time) (peers : List NodeId) :
    peers.foldlM (fun n peer => n.call now (.newConnection peer)) (n.mapFirmware h.state) =
      mapFirmware h.state <$> peers.foldlM (fun n peer => n.call now (.newConnection peer)) n := by
  induction peers generalizing n with
  | nil => rfl
  | cons peer peers ih =>
    rw [List.foldlM_cons, List.foldlM_cons, call_mapFirmware]
    cases n.call now (.newConnection peer) with
    | error fault => rfl
    | ok m => exact ih m

theorem refreshPeers_mapFirmware (now : Time) (peers : List NodeId) :
    (n.mapFirmware h.state).refreshPeers now peers =
      mapFirmware h.state <$> n.refreshPeers now peers := by
  obtain ⟨id, device, session, tag, metrics⟩ := n
  cases session with
  | none => rfl
  | some session =>
    have introduced := foldlM_call_mapFirmware
      ⟨id, device, some { session with peers }, tag, metrics⟩ h now (newPeers session.peers peers)
    simp only [mapFirmware] at introduced
    simp only [refreshPeers, mapFirmware]
    split
    · rfl
    · rw [introduced]
      cases (newPeers session.peers peers).foldlM (fun n peer => n.call now (.newConnection peer))
          (⟨id, device, some { session with peers }, tag, metrics⟩ : Node ψ) with
      | error fault => rfl
      | ok m => exact m.call_mapFirmware h now .changedConnections

theorem step_mapFirmware (op : LifecycleOp) :
    (·.2) <$> (n.mapFirmware h.state).step op =
      (fun r => r.2.mapFirmware h.state) <$> n.step op := by
  cases op with
  | start now =>
    rw [step, step]
    cases hr : n.isRunning with
    | true =>
      rw [start_of_running hr, start_of_running (n := n.mapFirmware h.state) hr]
      rfl
    | false =>
      rw [start_of_stopped hr, start_of_stopped (n := n.mapFirmware h.state) hr, boot_mapFirmware]
      cases n.boot now <;> rfl
  | stop now =>
    rw [step, step, stop_mapFirmware]
    cases n.stop now <;> rfl
  | crash now =>
    rw [step, step, crash_mapFirmware]
    cases n.crash now <;> rfl
  | restart now =>
    rw [step, step, run_restart, run_restart, reboot_mapFirmware]
    cases n.reboot now <;> rfl

end Node

namespace Fleet

section Entries

variable {φ ψ : Type} (f : ψ → φ) (fleet : Fleet ψ)

@[simp] theorem find?_mapFirmware (id : NodeId) :
    (fleet.mapFirmware f).find? id = (fleet.find? id).map (·.mapFirmware f) := by
  rw [find?, mapFirmware, Std.ExtTreeMap.getElem?_map, find?]

theorem toList_mapFirmware :
    (fleet.mapFirmware f).nodes.toList =
      fleet.nodes.toList.map fun e => (e.1, e.2.mapFirmware f) :=
  Std.ExtTreeMap.toList_map

theorem contains_mapFirmware (id : NodeId) :
    (fleet.mapFirmware f).contains id = fleet.contains id := by
  rw [contains, contains, Std.ExtTreeMap.contains_eq_isSome_getElem?,
    Std.ExtTreeMap.contains_eq_isSome_getElem?, ← find?, find?_mapFirmware, Option.isSome_map,
    find?]

theorem size_mapFirmware : (fleet.mapFirmware f).size = fleet.size := Std.ExtTreeMap.size_map

theorem runningIds_mapFirmware : (fleet.mapFirmware f).runningIds = fleet.runningIds := by
  rw [runningIds, toList_mapFirmware, List.filter_map, List.map_map]
  rfl

theorem unsent_mapFirmware : (fleet.mapFirmware f).unsent = fleet.unsent := by
  rw [unsent, toList, MapSum.values_eq, toList_mapFirmware, List.map_map, List.flatMap_map, unsent,
    toList, MapSum.values_eq, List.flatMap_map]
  rfl

theorem map_insert (nodes : Std.ExtTreeMap NodeId (Node ψ)) (id : NodeId) (n : Node ψ) :
    (nodes.insert id n).map (fun _ n => n.mapFirmware f) =
      (nodes.map fun _ n => n.mapFirmware f).insert id (n.mapFirmware f) := by
  refine Std.ExtTreeMap.ext_getElem? fun i => ?_
  simp only [Std.ExtTreeMap.getElem?_map, Std.ExtTreeMap.getElem?_insert]
  split <;> rfl

theorem map_erase (nodes : Std.ExtTreeMap NodeId (Node ψ)) (id : NodeId) :
    (nodes.erase id).map (fun _ n => n.mapFirmware f) =
      (nodes.map fun _ n => n.mapFirmware f).erase id := by
  refine Std.ExtTreeMap.ext_getElem? fun i => ?_
  simp only [Std.ExtTreeMap.getElem?_map, Std.ExtTreeMap.getElem?_erase]
  split <;> rfl

theorem insert_mapFirmware (id : NodeId) (n : Node ψ) :
    ({ fleet with nodes := fleet.nodes.insert id n } : Fleet ψ).mapFirmware f =
      { fleet.mapFirmware f with
        nodes := (fleet.mapFirmware f).nodes.insert id (n.mapFirmware f) } := by
  rw [mapFirmware, map_insert]
  rfl

theorem map_ofList (es : List (NodeId × Node ψ)) :
    (Std.ExtTreeMap.ofList es).map (fun _ n => n.mapFirmware f) =
      (.ofList (es.map fun e => (e.1, e.2.mapFirmware f)) : Std.ExtTreeMap NodeId (Node φ)) := by
  have inserted (nodes : Std.ExtTreeMap NodeId (Node ψ)) :
      (es.foldl (fun t e => t.insert e.1 e.2) nodes).map (fun _ n => n.mapFirmware f) =
        (es.map fun e => (e.1, e.2.mapFirmware f)).foldl (fun t e => t.insert e.1 e.2)
          (nodes.map fun _ n => n.mapFirmware f) := by
    induction es generalizing nodes with
    | nil => rfl
    | cons e es ih => rw [List.foldl_cons, List.map_cons, List.foldl_cons, ih, map_insert]
  rw [Std.ExtTreeMap.ofList_eq_foldl, Std.ExtTreeMap.ofList_eq_foldl, inserted]
  rfl

theorem map_mapFirmware {change : Node ψ → Node ψ} {change' : Node φ → Node φ}
    (natural : ∀ n, change' (n.mapFirmware f) = (change n).mapFirmware f) :
    (fleet.mapFirmware f).map change' = (fleet.map change).mapFirmware f := by
  have entries : (fleet.mapFirmware f).nodes.map (fun _ n => change' n) =
      (fleet.nodes.map fun _ n => change n).map fun _ n => n.mapFirmware f := by
    refine Std.ExtTreeMap.ext_getElem? fun i => ?_
    simp only [mapFirmware, Std.ExtTreeMap.getElem?_map, Option.map_map]
    congr 1
    funext n
    exact natural n
  rw [map, entries]
  rfl

theorem assign_mapFirmware (id : NodeId) (tag : UInt32) :
    (fleet.mapFirmware f).assign id tag = (fleet.assign id tag).mapFirmware f := by
  have entries : (fleet.mapFirmware f).nodes.modify id (fun n => { n with partition := tag }) =
      (fleet.nodes.modify id fun n => { n with partition := tag }).map
        fun _ n => n.mapFirmware f := by
    refine Std.ExtTreeMap.ext_getElem? fun i => ?_
    simp only [mapFirmware, Std.ExtTreeMap.getElem?_map, Std.ExtTreeMap.getElem?_modify]
    split
    · rw [Option.map_map, Option.map_map]
      rfl
    · rfl
  rw [assign, modify, entries]
  rfl

theorem assignGroups_mapFirmware (groups : Groups) :
    (fleet.mapFirmware f).assignGroups groups = (fleet.assignGroups groups).mapFirmware f := by
  have members (ids : List NodeId) (tag : UInt32) (fleet : Fleet ψ) :
      ids.foldl (·.assign · tag) (fleet.mapFirmware f) =
        (ids.foldl (·.assign · tag) fleet).mapFirmware f := by
    induction ids generalizing fleet with
    | nil => rfl
    | cons id ids ih => rw [List.foldl_cons, List.foldl_cons, assign_mapFirmware, ih]
  rw [assignGroups, assignGroups]
  generalize groups.zipIdx 1 = numbered
  induction numbered generalizing fleet with
  | nil => rfl
  | cons group numbered ih => rw [List.foldl_cons, List.foldl_cons, members, ih]

section Acts

variable {act : Node ψ → Checked (Node ψ)} {act' : Node φ → Checked (Node φ)}
  (natural : ∀ n, act' (n.mapFirmware f) = Node.mapFirmware f <$> act n)
include natural

theorem mapM_mapFirmware (es : List (NodeId × Node ψ)) :
    ((es.map fun e => (e.1, e.2.mapFirmware f)).mapM fun e => return (e.1, ← act' e.2) :
        Checked _) =
      List.map (fun e => (e.1, e.2.mapFirmware f)) <$>
        (es.mapM fun e => return (e.1, ← act e.2) : Checked _) := by
  induction es with
  | nil => rfl
  | cons e es ih =>
    rw [List.map_cons, List.mapM_cons, List.mapM_cons, natural]
    cases act e.2 with
    | error fault => rfl
    | ok m =>
      simp only [Checked.map_ok, Checked.ok_bind, ih]
      cases (es.mapM fun e => return (e.1, ← act e.2) : Checked _) <;> rfl

theorem each_mapFirmware : (fleet.mapFirmware f).each act' = mapFirmware f <$> fleet.each act := by
  rw [each, each, toList_mapFirmware, mapM_mapFirmware f natural]
  cases (fleet.nodes.toList.mapM fun e => return (e.1, ← act e.2) : Checked _) with
  | error fault => rfl
  | ok es =>
    simp only [Checked.map_ok, Checked.ok_bind, Checked.pure_def, mapFirmware, map_ofList]

theorem revise_mapFirmware (id : NodeId) :
    (fleet.mapFirmware f).revise id act' = mapFirmware f <$> fleet.revise id act := by
  rw [revise, revise, find?_mapFirmware]
  cases fleet.find? id with
  | none => rfl
  | some n =>
    simp only [Option.map_some, natural]
    cases act n with
    | error fault => rfl
    | ok m =>
      rw [Checked.map_ok, Checked.map_ok, Checked.map_ok, Checked.map_ok, insert_mapFirmware]

end Acts

end Entries

end Fleet

end MeshNet
