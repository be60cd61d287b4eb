import MeshNet.Event.Effect
import MeshNet.Proofs.Node.Outcome
import MeshNet.Proofs.Random.Probability

namespace MeshNet

namespace LatencyModel

theorem toNat_max (a b : UInt32) : (Max.max a b).toNat = Max.max a.toNat b.toNat := by
  rw [show Max.max a b = if a ≤ b then b else a from rfl, apply_ite UInt32.toNat]
  exact (Nat.max_def ..).symm

theorem toNat_min_raised (m : LatencyModel) (floor : UInt32) :
    (m.raised floor).min.toNat = Max.max m.min.toNat floor.toNat := toNat_max ..

theorem toNat_max_raised (m : LatencyModel) (floor : UInt32) :
    (m.raised floor).max.toNat =
      Max.max m.max.toNat (Min.min (2 * floor.toNat) (UInt32.size - 1)) := by
  rw [raised, toNat_max, UInt32.toNat_ofNat_of_lt']
  exact Nat.lt_of_le_of_lt (Nat.min_le_right _ _) (by decide)

theorem valid_raised {m : LatencyModel} (h : m.Valid) (floor : UInt32) :
    (m.raised floor).Valid := by
  have word : floor.toNat < UInt32.size := floor.toNat_lt
  rw [Valid, UInt32.le_iff_toNat_le] at h ⊢
  rw [toNat_min_raised, toNat_max_raised]
  omega

end LatencyModel

theorem LossModel.valid_independent {p : Float} (h : Random.IsProbability p) :
    LossModel.Valid { probability := p } := ⟨h, nofun⟩

namespace Conditions

def degraded (c : Conditions) (l : Link) (latency : UInt32) (m : {m : LossModel // m.Valid}) :
    Conditions :=
  let raised (l : Link) : {m : LatencyModel // m.Valid} :=
    ⟨(c.latencyFor l).val.raised latency, LatencyModel.valid_raised (c.latencyFor l).property _⟩
  { c with
    latencies := (c.latencies.insert l (raised l)).insert l.reverse (raised l.reverse)
    losses := (c.losses.insert l m).insert l.reverse m
    bursts := (c.bursts.erase l).erase l.reverse }

theorem setLatency_of_valid {c : Conditions} {l : Link} {m : LatencyModel} (h : m.Valid) :
    c.setLatency l m = .ok { c with latencies := c.latencies.insert l ⟨m, h⟩ } := by
  rw [setLatency, LatencyModel.check_of_valid h]
  rfl

theorem setLoss_of_valid {c : Conditions} {l : Link} {m : LossModel} (h : m.Valid) :
    c.setLoss l m =
      .ok { c with losses := c.losses.insert l ⟨m, h⟩, bursts := c.bursts.erase l } := by
  rw [setLoss, LossModel.check_of_valid h]
  rfl

end Conditions

namespace Fleet

variable {φ : Type}

def revise (f : Fleet φ) (id : NodeId) (act : Node φ → Checked (Node φ)) : Checked (Fleet φ) :=
  match f.find? id with
  | none => .ok f
  | some n => (fun n => { f with nodes := f.nodes.insert id n }) <$> act n

end Fleet

namespace EventEffect

variable {φ α β : Type}

theorem run_bind (x : EventEffect φ α) (f : α → EventEffect φ β) (mesh : Mesh φ) :
    ((x >>= f).run.run mesh : Checked _) =
      (x.run.run mesh : Checked _) >>= fun r =>
        match r.1 with
        | .ok a => (f a).run.run r.2
        | .error error => .ok (.error error, r.2) := by
  rw [ExceptT.run_bind, StateT.run_bind]
  congr 1
  funext r
  obtain ⟨a | a, mesh⟩ := r
  · rfl
  · rfl

theorem run_bind_of_ok {x : EventEffect φ α} {a : α} {mesh mesh' : Mesh φ}
    (h : (x.run.run mesh : Checked _) = .ok (.ok a, mesh')) (f : α → EventEffect φ β) :
    ((x >>= f).run.run mesh : Checked _) = (f a).run.run mesh' := by
  rw [run_bind, h]
  rfl

theorem run_get (mesh : Mesh φ) :
    ((get : EventEffect φ (Mesh φ)).run.run mesh : Checked _) = .ok (.ok mesh, mesh) := rfl

theorem run_orCondition {x : Except ConditionError α} {a : α} (h : x = .ok a) (mesh : Mesh φ) :
    ((orCondition x : EventEffect φ α).run.run mesh : Checked _) = .ok (.ok a, mesh) := by
  rw [h]
  rfl

theorem run_onConditions {change : Conditions → Except ConditionError Conditions} {mesh : Mesh φ}
    {c : Conditions} (h : change mesh.network.conditions = .ok c) :
    ((onConditions change).run.run mesh : Checked _) =
      .ok (.ok (), { mesh with network := { mesh.network with conditions := c } }) := by
  have hr : mesh.network.reconfigure change = .ok { mesh.network with conditions := c } := by
    rw [Network.reconfigure, h]
    rfl
  rw [onConditions, run_bind, run_get]
  simp only [Checked.ok_bind, hr]
  rfl

theorem run_onNode (id : NodeId) {act : Node φ → ExceptT NodeError Checked (Node φ)}
    {act' : Node φ → Checked (Node φ)} (h : ∀ n, (act n).run = .ok <$> act' n) (mesh : Mesh φ) :
    ((onNode id act).run.run mesh : Checked _) =
      if mesh.fleet.contains id then
        (fun fleet => (.ok (), { mesh with fleet })) <$> mesh.fleet.revise id act'
      else .ok (.error (.node (.notFound id)), mesh) := by
  have hc : mesh.fleet.contains id = (mesh.fleet.find? id).isSome := by
    rw [Fleet.contains, Fleet.find?, Std.ExtTreeMap.contains_eq_isSome_getElem?]
  rw [onNode, run_bind, run_get, hc, Fleet.revise]
  simp only [Checked.ok_bind, run_bind]
  cases hf : mesh.fleet.find? id with
  | none =>
    have hn : (mesh.fleet.onNode id act).run = .ok (.error (.notFound id)) := by
      rw [Fleet.onNode, hf]
      rfl
    rw [hn]
    rfl
  | some n =>
    have hn : (mesh.fleet.onNode id act).run =
        (fun n => .ok { mesh.fleet with nodes := mesh.fleet.nodes.insert id n }) <$> act' n := by
      rw [Fleet.onNode, hf]
      simp only [ExceptT.run_bind, h]
      cases act' n <;> rfl
    rw [hn]
    simp only [Option.isSome_some, if_true]
    cases act' n <;> rfl

theorem run_degrade (l : Link) (latency : UInt32) {loss : Float} (h : Random.IsProbability loss)
    (mesh : Mesh φ) :
    ((degrade l latency loss).run.run mesh : Checked _) =
      .ok (.ok (), { mesh with
        network := { mesh.network with
          conditions := mesh.network.conditions.degraded l latency
            ⟨_, LossModel.valid_independent h⟩ } }) := by
  have hl (l : Link) : ((mesh.network.conditions.latencyFor l).val.raised latency).Valid :=
    LatencyModel.valid_raised (mesh.network.conditions.latencyFor l).property latency
  have hm : LossModel.Valid { probability := loss } := LossModel.valid_independent h
  rw [degrade, LossModel.independent,
    run_bind_of_ok (run_orCondition (LossModel.check_of_valid hm) mesh),
    run_bind_of_ok (run_get mesh),
    run_bind_of_ok (run_orCondition (LatencyModel.check_of_valid (hl l)) mesh),
    run_bind_of_ok (run_orCondition (LatencyModel.check_of_valid (hl l.reverse)) mesh),
    run_bind_of_ok (run_onConditions (Conditions.setLatency_of_valid (hl l))),
    run_bind_of_ok (run_onConditions (Conditions.setLatency_of_valid (hl l.reverse))),
    run_bind_of_ok (run_onConditions (Conditions.setLoss_of_valid hm)),
    run_onConditions (Conditions.setLoss_of_valid hm)]
  rfl

end EventEffect

namespace Event

variable {φ : Type}

def refusal? (f : Fleet φ) : Event → Option EventError
  | start id | stop id _ | crash id | restart id =>
    if f.contains id then none else some (.node (.notFound id))
  | degrade _ _ loss =>
    if Random.IsProbability loss then none else some (.condition (.lossProbability loss))
  | partition groups =>
    match groups.check with
    | .ok _ => none
    | .error error => some error
  | drop _ | restore _ | heal => none

variable [Firmware φ]

def effect (now : Time) (mesh : Mesh φ) : Event → Checked (Mesh φ)
  | start id =>
    ({ mesh with fleet := · }) <$>
      mesh.fleet.revise id fun n => if n.isRunning then .ok n else n.boot now
  | stop id _ => ({ mesh with fleet := · }) <$> mesh.fleet.revise id (·.stop now)
  | crash id => ({ mesh with fleet := · }) <$> mesh.fleet.revise id (·.crash now)
  | restart id => ({ mesh with fleet := · }) <$> mesh.fleet.revise id (·.reboot now)
  | drop l =>
    .ok { mesh with network := { mesh.network with cuts := mesh.network.cuts.cutBoth l } }
  | restore l =>
    .ok { mesh with network := { mesh.network with cuts := mesh.network.cuts.mendBoth l } }
  | degrade l latency loss =>
    if h : Random.IsProbability loss then
      let m := ⟨_, LossModel.valid_independent h⟩
      .ok { mesh with
        network := { mesh.network with
          conditions := mesh.network.conditions.degraded l latency m } }
    else .ok mesh
  | partition groups =>
    .ok {
      fleet := mesh.fleet.assignGroups groups
      network := { mesh.network with cuts := mesh.network.cuts.cutAll groups.crossing } }
  | heal =>
    .ok {
      fleet := mesh.fleet.map fun n => { n with partition := 0 }
      network := mesh.network.mendAll }

theorem perform_eq (e : Event) (now : Time) (mesh : Mesh φ) :
    ((e.perform now).run.run mesh : Checked _) =
      match e.refusal? mesh.fleet with
      | some error => .ok (.error error, mesh)
      | none => (fun mesh => (.ok (), mesh)) <$> e.effect now mesh := by
  have lifecycle {id : NodeId} {act : Node φ → ExceptT NodeError Checked (Node φ)}
      {act' : Node φ → Checked (Node φ)} (h : ∀ n, (act n).run = .ok <$> act' n) :
      ((EventEffect.onNode id act).run.run mesh : Checked _) =
        match (if mesh.fleet.contains id then none else some (.node (.notFound id)) :
          Option EventError) with
        | some error => .ok (.error error, mesh)
        | none => (fun mesh => (.ok (), mesh)) <$>
            (fun fleet => { mesh with fleet }) <$> mesh.fleet.revise id act' := by
    rw [EventEffect.run_onNode id h]
    cases mesh.fleet.contains id with
    | false => rfl
    | true => cases mesh.fleet.revise id act' <;> rfl
  cases e with
  | start id =>
    refine lifecycle fun n => ?_
    cases hr : n.isRunning with
    | true => rfl
    | false => simp [Node.start, hr]
  | stop id graceful => exact lifecycle fun n => rfl
  | crash id => exact lifecycle fun n => rfl
  | restart id => exact lifecycle fun n => n.run_restart now
  | drop l => rfl
  | restore l => rfl
  | degrade l latency loss =>
    -- A latency in force is valid and stays so when it is raised: only the loss can be wrong.
    rw [perform, refusal?, effect]
    by_cases h : Random.IsProbability loss
    · rw [if_pos h, dif_pos h]
      exact EventEffect.run_degrade l latency h mesh
    · rw [if_neg h, EventEffect.degrade, EventEffect.run_bind, LossModel.independent,
        LossModel.check, dif_neg h]
      rfl
  | partition groups =>
    simp only [perform, EventEffect.partition, refusal?, effect]
    cases h : groups.check with
    | error error => rfl
    | ok g =>
      obtain ⟨rfl, -⟩ := Groups.check_eq_ok_iff.1 h
      rfl
  | heal => rfl

theorem effect_frame {e : Event} {now : Time} {mesh mesh' : Mesh φ}
    (h : e.effect now mesh = .ok mesh') :
    mesh'.network.inFlight = mesh.network.inFlight ∧
      mesh'.network.traffic = mesh.network.traffic := by
  cases e with
  | start id | stop id graceful | crash id | restart id =>
    obtain ⟨fleet, -, rfl⟩ := Checked.map_eq_ok.1 h
    exact ⟨rfl, rfl⟩
  | drop l | restore l | partition groups | heal =>
    cases h
    exact ⟨rfl, rfl⟩
  | degrade l latency loss =>
    rw [effect] at h
    split at h
    · cases h
      exact ⟨rfl, rfl⟩
    · cases h
      exact ⟨rfl, rfl⟩

theorem eq_or_effect_of_perform {e : Event} {now : Time} {mesh mesh' : Mesh φ}
    {verdict : Except EventError Unit}
    (h : ((e.perform now).run.run mesh : Checked _) = .ok (verdict, mesh')) :
    mesh' = mesh ∨ e.effect now mesh = .ok mesh' := by
  rw [perform_eq] at h
  cases hr : e.refusal? mesh.fleet with
  | some error =>
    rw [hr] at h
    cases h
    exact .inl rfl
  | none =>
    rw [hr] at h
    obtain ⟨mesh'', he, h⟩ := Checked.map_eq_ok.1 h
    cases h
    exact .inr he

theorem perform_frame {e : Event} {now : Time} {mesh mesh' : Mesh φ}
    {verdict : Except EventError Unit}
    (h : ((e.perform now).run.run mesh : Checked _) = .ok (verdict, mesh')) :
    mesh'.network.inFlight = mesh.network.inFlight ∧
      mesh'.network.traffic = mesh.network.traffic := by
  rcases eq_or_effect_of_perform h with rfl | he
  · exact ⟨rfl, rfl⟩
  · exact effect_frame he

end Event

end MeshNet
