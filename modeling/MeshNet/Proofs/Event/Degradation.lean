import Mathlib
import MeshNet.Firmware.Catalogue
import MeshNet.Proofs.Conservation.Exchange
import MeshNet.Proofs.Reach.Run

namespace MeshNet

namespace Link

def SamePair (k l : Link) : Prop := k = l ∨ k = l.reverse

instance (k l : Link) : Decidable (k.SamePair l) := inferInstanceAs (Decidable (_ ∨ _))

theorem SamePair.symm {k l : Link} (h : k.SamePair l) : l.SamePair k := by
  rcases h with rfl | rfl
  · exact .inl rfl
  · exact .inr rfl

theorem SamePair.trans {j k l : Link} (h : j.SamePair k) (h' : k.SamePair l) : j.SamePair l := by
  rcases h with rfl | rfl
  · exact h'
  · rcases h' with rfl | rfl
    · exact .inr rfl
    · exact .inl rfl

end Link

structure Degradation where
  floor : UInt32
  loss : Float
deriving DecidableEq

def Degradation.floors (ds : List Degradation) : Finset UInt32 := (ds.map (·.floor)).toFinset

theorem Degradation.sup_floors_cons (d : Degradation) (ds : List Degradation) (f : UInt32 → Nat) :
    (floors (d :: ds)).sup f = max (f d.floor) ((floors ds).sup f) := by
  rw [floors, List.map_cons, List.toFinset_cons, Finset.sup_insert]
  rfl

structure LinkModels where
  latency : LatencyModel
  loss : LossModel

namespace LinkModels

def degrade (m : LinkModels) (d : Degradation) : LinkModels where
  latency := m.latency.raised d.floor
  loss := { probability := d.loss }

structure Accumulates (ds : List Degradation) (m n : LinkModels) : Prop where
  min : n.latency.min.toNat = max m.latency.min.toNat ((Degradation.floors ds).sup (·.toNat))
  max : n.latency.max.toNat = max m.latency.max.toNat
    ((Degradation.floors ds).sup fun floor => Min.min (2 * floor.toNat) (UInt32.size - 1))
  uniform : ds ≠ [] → n.latency.distribution = .uniform
  loss : ∀ d, ds.getLast? = some d → n.loss = { probability := d.loss }
  untouched : ds = [] → n = m

theorem foldl_degrade_eq_sup {f : LinkModels → Nat} {g : UInt32 → Nat}
    (step : ∀ m d, f (degrade m d) = Max.max (f m) (g d.floor)) (ds : List Degradation)
    (m : LinkModels) :
    f (ds.foldl degrade m) = Max.max (f m) ((Degradation.floors ds).sup g) := by
  induction ds generalizing m with
  | nil => exact (Nat.max_zero _).symm
  | cons d ds ih => rw [List.foldl_cons, ih, step, Degradation.sup_floors_cons, Nat.max_assoc]

theorem foldl_degrade (ds : List Degradation) (m : LinkModels) :
    Accumulates ds m (ds.foldl degrade m) := by
  refine ⟨?_, ?_, fun some_asked => ?_, fun d last => ?_, fun none_asked => ?_⟩
  · exact foldl_degrade_eq_sup (f := (·.latency.min.toNat))
      (fun m d => m.latency.toNat_min_raised d.floor) ds m
  · exact foldl_degrade_eq_sup (f := (·.latency.max.toNat))
      (g := fun floor => Min.min (2 * floor.toNat) (UInt32.size - 1))
      (fun m d => m.latency.toNat_max_raised d.floor) ds m
  · rw [← List.dropLast_concat_getLast some_asked, List.foldl_append]
    rfl
  · obtain ⟨before, rfl⟩ := List.getLast?_eq_some_iff.mp last
    rw [List.foldl_append]
    rfl
  · rw [none_asked]
    rfl

theorem Accumulates.latency_eq {ds es : List Degradation} {m n o : LinkModels}
    (h : Accumulates ds m n) (h' : Accumulates es m o)
    (same : Degradation.floors ds = Degradation.floors es) : n.latency = o.latency := by
  have both : ds = [] ↔ es = [] := by
    have empty (ds : List Degradation) : Degradation.floors ds = ∅ ↔ ds = [] := by
      simp [Degradation.floors]
    rw [← empty, ← empty, same]
  by_cases none_asked : ds = []
  · rw [h.untouched none_asked, h'.untouched (both.mp none_asked)]
  · have low : n.latency.min = o.latency.min := by
      rw [← UInt32.toNat_inj, h.min, h'.min, same]
    have high : n.latency.max = o.latency.max := by
      rw [← UInt32.toNat_inj, h.max, h'.max, same]
    have shape : n.latency.distribution = o.latency.distribution := by
      rw [h.uniform none_asked, h'.uniform (both.not.mp none_asked)]
    change LatencyModel.mk n.latency.min n.latency.max n.latency.distribution = o.latency
    rw [low, high, shape]

end LinkModels

namespace Conditions

def modelsFor (c : Conditions) (l : Link) : LinkModels := ⟨(c.latencyFor l).val, (c.lossFor l).val⟩

theorem getElem?_insert_pair {β : Type} (t : Std.ExtTreeMap Link β) (l : Link) (f : Link → β)
    (k : Link) : ((t.insert l (f l)).insert l.reverse (f l.reverse))[k]? =
      if k.SamePair l then some (f k) else t[k]? := by
  simp only [Std.ExtTreeMap.getElem?_insert, Std.compare_eq_iff_eq, Link.SamePair]
  by_cases backward : k = l.reverse
  · simp [backward]
  · by_cases forward : k = l
    · subst forward
      simp [Ne.symm backward]
    · simp [forward, backward, Ne.symm forward, Ne.symm backward]

def raisedFor (c : Conditions) (latency : UInt32) (l : Link) : {m : LatencyModel // m.Valid} :=
  (c.latencyFor l).map (·.raised latency) fun _ h => LatencyModel.valid_raised h latency

theorem degraded_eq (c : Conditions) (l : Link) (latency : UInt32)
    (m : {m : LossModel // m.Valid}) : c.degraded l latency m =
      { c with
        latencies := (c.latencies.insert l (c.raisedFor latency l)).insert l.reverse
          (c.raisedFor latency l.reverse)
        losses := (c.losses.insert l m).insert l.reverse m
        bursts := (c.bursts.erase l).erase l.reverse } := rfl

theorem modelsFor_degraded (c : Conditions) (l : Link) (latency : UInt32)
    (m : {m : LossModel // m.Valid}) (k : Link) :
    (c.degraded l latency m).modelsFor k =
      if k.SamePair l then ⟨(c.latencyFor k).val.raised latency, m.val⟩ else c.modelsFor k := by
  have latencies := getElem?_insert_pair c.latencies l (c.raisedFor latency) k
  have losses := getElem?_insert_pair c.losses l (fun _ => m) k
  rw [modelsFor, latencyFor, lossFor, degraded_eq, latencies, losses]
  split <;> rfl

theorem degraded_reverse (c : Conditions) (l : Link) (latency : UInt32)
    (m : {m : LossModel // m.Valid}) : c.degraded l.reverse latency m = c.degraded l latency m := by
  have pair (k : Link) : k.SamePair l.reverse ↔ k.SamePair l := Or.comm
  have insert_pair {β : Type} (t : Std.ExtTreeMap Link β) (f : Link → β) :
      (t.insert l.reverse (f l.reverse)).insert l (f l) =
        (t.insert l (f l)).insert l.reverse (f l.reverse) := by
    refine Std.ExtTreeMap.ext_getElem? fun k => ?_
    have backward := getElem?_insert_pair t l.reverse f k
    rw [Link.reverse_reverse] at backward
    simp only [backward, getElem?_insert_pair, pair]
  have bursts : (c.bursts.erase l.reverse).erase l = (c.bursts.erase l).erase l.reverse := by
    refine Std.ExtTreeMap.ext_getElem? fun k => ?_
    simp only [Std.ExtTreeMap.getElem?_erase]
    split <;> split <;> rfl
  rw [degraded_eq, degraded_eq, mk.injEq]
  exact ⟨rfl, insert_pair c.latencies (c.raisedFor latency), rfl,
    insert_pair c.losses fun _ => m, bursts, rfl⟩

structure Degraded (asked : Link → List Degradation) (c d : Conditions) : Prop where
  models : ∀ k l, k.SamePair l → d.modelsFor k = (asked l).foldl .degrade (c.modelsFor k)
  defaultLatency : d.defaultLatency = c.defaultLatency
  defaultLoss : d.defaultLoss = c.defaultLoss

theorem Degraded.of_models {c d : Conditions} (h : d.models = c.models) :
    Degraded (fun _ => []) c d :=
  ⟨fun k _ _ => congrArg (·.modelsFor k) h, congrArg (·.defaultLatency) h,
    congrArg (·.defaultLoss) h⟩

theorem Degraded.trans {asked more : Link → List Degradation} {c d e : Conditions}
    (h : Degraded asked c d) (h' : Degraded more d e) :
    Degraded (fun l => asked l ++ more l) c e := by
  refine ⟨fun k l same => ?_, h'.defaultLatency.trans h.defaultLatency,
    h'.defaultLoss.trans h.defaultLoss⟩
  rw [List.foldl_append, ← h.models k l same, h'.models k l same]

end Conditions

def NetworkOp.configures : NetworkOp → Bool
  | configure _ => true
  | enqueue _ _ | drain _ | clear | drops _ | cut _ | mend _ | mendAll | resetTraffic => false

def MeshOp.configures {φ : Type} : MeshOp φ → Bool
  | network op => op.configures
  | execute _ _ | update _ | fleet _ => false

def Event.asks (l : Link) : Event → List Degradation
  | degrade k latency loss =>
    if l.SamePair k ∧ Random.IsProbability loss then [⟨latency, loss⟩] else []
  | start _ | stop _ _ | crash _ | restart _ | drop _ | restore _ | partition _ | heal => []

def MeshOp.asks {φ : Type} (l : Link) : MeshOp φ → List Degradation
  | execute e _ => e.asks l
  | update _ | network _ | fleet _ => []

namespace Network

theorem models_enqueue (n : Network) (m : Message) (now : Time) :
    (n.enqueue m now).2.conditions.models = n.conditions.models := by
  have fate := n.conditions.models_sampleFate n.cuts m.link
  rw [enqueue_eq]
  revert fate
  obtain ⟨_ | latency, conditions⟩ := n.conditions.sampleFate n.cuts m.link
  · exact id
  · exact id

theorem models_enqueueAll (now : Time) (ms : List Message) (n : Network) :
    (n.enqueueAll now ms).2.conditions.models = n.conditions.models := by
  induction ms generalizing n with
  | nil => rfl
  | cons m ms ih => exact (ih _).trans (n.models_enqueue m now)

theorem models_step {n : Network} {op : NetworkOp} (settled : op.configures = false) :
    (n.step op).2.conditions.models = n.conditions.models := by
  cases op with
  | enqueue m now => exact n.models_enqueue m now
  | drops l =>
    rw [step, drops_eq]
    exact n.conditions.models_sampleDrop n.cuts l
  | configure s => cases settled
  | drain now | clear | cut l | mend l | mendAll | resetTraffic => rfl

end Network

variable {φ : Type} [Firmware φ]

theorem Mesh.models_update {mesh mesh' : Mesh φ} {now : Time} {report : UpdateReport}
    (h : mesh.update now = .ok (report, mesh')) :
    mesh'.network.conditions.models = mesh.network.conditions.models := by
  obtain ⟨reached, fleet, -, -, rfl⟩ := update_eq_ok h
  exact Network.models_enqueueAll now fleet.unsent (mesh.network.drain now).2

namespace Event

theorem perform_degrade (l : Link) (latency : UInt32) (loss : Float) (now : Time) (mesh : Mesh φ) :
    (((degrade l latency loss).perform now).run.run mesh : Checked _) =
      if h : Random.IsProbability loss then
        .ok (.ok (), { mesh with
          network := { mesh.network with
            conditions := mesh.network.conditions.degraded l latency
              ⟨_, LossModel.valid_independent h⟩ } })
      else .ok (.error (.condition (.lossProbability loss)), mesh) := by
  rw [perform_eq, refusal?, effect]
  by_cases valid : Random.IsProbability loss
  · rw [if_pos valid, dif_pos valid, dif_pos valid]
    rfl
  · rw [if_neg valid, dif_neg valid, dif_neg valid]

theorem conditions_perform {e : Event} {now : Time} {mesh mesh' : Mesh φ}
    {verdict : Except EventError Unit} (other : ∀ l latency loss, e ≠ degrade l latency loss)
    (h : ((e.perform now).run.run mesh : Checked _) = .ok (verdict, mesh')) :
    mesh'.network.conditions = mesh.network.conditions := by
  rcases eq_or_effect_of_perform h with rfl | he
  · rfl
  · cases e with
    | start id | stop id graceful | crash id | restart id =>
      obtain ⟨fleet, -, rfl⟩ := Checked.map_eq_ok.1 he
      rfl
    | drop l | restore l | partition groups | heal =>
      cases he
      rfl
    | degrade l latency loss => exact absurd rfl (other l latency loss)

theorem degraded_perform {e : Event} {now : Time} {mesh mesh' : Mesh φ}
    {verdict : Except EventError Unit}
    (h : ((e.perform now).run.run mesh : Checked _) = .ok (verdict, mesh')) :
    Conditions.Degraded e.asks mesh.network.conditions mesh'.network.conditions := by
  cases e with
  | degrade j latency loss =>
    rw [perform_degrade] at h
    by_cases valid : Random.IsProbability loss
    · rw [dif_pos valid] at h
      cases h
      refine ⟨fun k l same => ?_, rfl, rfl⟩
      have pair : l.SamePair j ↔ k.SamePair j := ⟨same.trans, same.symm.trans⟩
      simp only [Conditions.modelsFor_degraded, asks, pair, valid, and_true]
      split <;> rfl
    · rw [dif_neg valid] at h
      cases h
      have none_asked : (degrade j latency loss).asks = fun _ => [] := by
        funext l
        rw [asks, if_neg fun accepted => valid accepted.2]
      rw [none_asked]
      exact .of_models rfl
  | start id | stop id graceful | crash id | restart id | drop l | restore l | partition groups
  | heal => exact .of_models (congrArg _ (conditions_perform (by simp) h))

end Event

namespace Mesh

theorem degraded_step {mesh mesh' : Mesh φ} {op : MeshOp φ} {done : List Event}
    (settled : op.configures = false) (h : mesh.step op = .ok (done, mesh')) :
    Conditions.Degraded op.asks mesh.network.conditions mesh'.network.conditions := by
  cases op with
  | execute e now =>
    obtain ⟨⟨verdict, mesh''⟩, hp, h⟩ := Checked.bind_eq_ok.1 h
    cases h
    exact Event.degraded_perform hp
  | update now =>
    obtain ⟨⟨report, mesh''⟩, hu, h⟩ := Checked.bind_eq_ok.1 h
    cases h
    exact .of_models (models_update hu)
  | network op =>
    cases h
    exact .of_models (Network.models_step settled)
  | fleet op =>
    obtain ⟨fleet, -, h⟩ := Checked.bind_eq_ok.1 h
    cases h
    exact .of_models rfl

theorem degraded_steps {mesh mesh' : Mesh φ} {ops : List (MeshOp φ)} {done : List Event}
    (settled : ∀ op ∈ ops, op.configures = false) (h : steps ops mesh = .ok (done, mesh')) :
    Conditions.Degraded (fun l => ops.flatMap (·.asks l)) mesh.network.conditions
      mesh'.network.conditions := by
  induction ops generalizing mesh done with
  | nil =>
    cases h
    exact .of_models rfl
  | cons op ops ih =>
    obtain ⟨first, next, rest, ho, hr, -⟩ := steps_cons_eq_ok.1 h
    rw [List.forall_mem_cons] at settled
    exact (degraded_step settled.1 ho).trans (ih settled.2 hr)

theorem degradations_accumulate {ops : List (MeshOp φ)} {mesh mesh' : Mesh φ} {done : List Event}
    (settled : ∀ op ∈ ops, op.configures = false) (run : steps ops mesh = .ok (done, mesh')) :
    let before := mesh.network.conditions
    let after := mesh'.network.conditions
    (∀ k l : Link, k.SamePair l → LinkModels.Accumulates (ops.flatMap (·.asks l))
      (before.modelsFor k) (after.modelsFor k)) ∧
    after.defaultLatency = before.defaultLatency ∧ after.defaultLoss = before.defaultLoss ∧
    (∀ (ops' : List (MeshOp φ)) (done' : List Event) (mesh'' : Mesh φ),
      (∀ op ∈ ops', op.configures = false) → steps ops' mesh = .ok (done', mesh'') →
        ∀ k l : Link, k.SamePair l → Degradation.floors (ops'.flatMap (·.asks l)) =
          Degradation.floors (ops.flatMap (·.asks l)) →
            mesh''.network.conditions.latencyFor k = after.latencyFor k) ∧
    (∀ (l : Link) (latency : UInt32) (loss : Float) (now : Time) (m : Mesh φ),
      let outcome (l : Link) : Checked (Except EventError Unit × Mesh φ) :=
        ((Event.degrade l latency loss).perform now).run.run m
      outcome l.reverse = outcome l ∧
      (¬ Random.IsProbability loss →
        outcome l = .ok (.error (.condition (.lossProbability loss)), m)) ∧
      (Random.IsProbability loss → ∃ m', outcome l = .ok (.ok (), m') ∧ m'.fleet = m.fleet ∧
        m'.network.conditions.defaultLatency = m.network.conditions.defaultLatency ∧
        m'.network.conditions.defaultLoss = m.network.conditions.defaultLoss ∧
        ∀ k : Link, ¬ k.SamePair l →
          m'.network.conditions.modelsFor k = m.network.conditions.modelsFor k)) ∧
    ∀ (e : Event) (now : Time) (m m' : Mesh φ) (verdict : Except EventError Unit),
      (∀ l latency loss, e ≠ .degrade l latency loss) →
        ((e.perform now).run.run m : Checked _) = .ok (verdict, m') →
          m'.network.conditions = m.network.conditions := by
  have accumulates {ops : List (MeshOp φ)} {mesh' : Mesh φ} {done : List Event}
      (settled : ∀ op ∈ ops, op.configures = false) (run : steps ops mesh = .ok (done, mesh'))
      {k l : Link} (same : k.SamePair l) : LinkModels.Accumulates (ops.flatMap (·.asks l))
        (mesh.network.conditions.modelsFor k) (mesh'.network.conditions.modelsFor k) := by
    rw [(degraded_steps settled run).models k l same]
    exact LinkModels.foldl_degrade _ _
  have degraded := degraded_steps settled run
  refine ⟨fun k l => accumulates settled run, degraded.defaultLatency, degraded.defaultLoss,
    fun ops' done' mesh'' settled' run' k l same floors => ?_,
    fun l latency loss now m => ⟨?_, fun invalid => ?_, fun valid => ?_⟩,
    fun e now m m' verdict other h => Event.conditions_perform other h⟩
  · exact Subtype.ext
      ((accumulates settled' run' same).latency_eq (accumulates settled run same) floors)
  · simp only [Event.perform_degrade, Conditions.degraded_reverse]
  · exact (Event.perform_degrade ..).trans (dif_neg invalid)
  · refine ⟨_, (Event.perform_degrade ..).trans (dif_pos valid), rfl, rfl, rfl, fun k apart => ?_⟩
    rw [Conditions.modelsFor_degraded, if_neg apart]

theorem degradations_accumulate_to_the_last_word :
    let l : Link := ⟨⟨1⟩, ⟨2⟩⟩
    let loop : Link := ⟨⟨3⟩, ⟨3⟩⟩
    let mesh : Mesh Builtin := { network := .seeded 1 }
    let ops : List (MeshOp Builtin) :=
      [.execute (.degrade l 500 0.5) 1, .execute (.crash ⟨9⟩) 2,
        .execute (.degrade l.reverse 3000000000 0.25) 3, .execute (.degrade l 4000000000 2.0) 4,
        .execute (.degrade loop 40 1.0) 4, .update 5, .execute .heal 5,
        .execute (.degrade l 20 0.75) 6]
    (∀ op ∈ ops, op.configures = false) ∧
    ∃ done mesh', steps ops mesh = .ok (done, mesh') ∧ done.length = 5 ∧
      (∀ k, k = l ∨ k = l.reverse →
        (mesh'.network.conditions.modelsFor k).latency.min.toNat = 3000000000 ∧
        (mesh'.network.conditions.modelsFor k).latency.max.toNat = 4294967295 ∧
        (mesh'.network.conditions.modelsFor k).latency.distribution = .uniform ∧
        (mesh'.network.conditions.modelsFor k).loss = { probability := 0.75 }) ∧
      (mesh'.network.conditions.modelsFor loop).latency.max.toNat = 80 := by
  intro l loop mesh ops
  have settled : ∀ op ∈ ops, op.configures = false := by decide +kernel
  have succeeded : (fun r : List Event × Mesh Builtin => r.1.length) <$> steps ops mesh = .ok 5 := by
    decide +kernel
  have asked : ops.flatMap (·.asks l) = [⟨500, 0.5⟩, ⟨3000000000, 0.25⟩, ⟨20, 0.75⟩] := by
    decide +kernel
  have asked_loop : ops.flatMap (·.asks loop) = [⟨40, 1.0⟩] := by decide +kernel
  obtain ⟨⟨done, mesh'⟩, run, count⟩ := Checked.map_eq_ok.1 succeeded
  obtain ⟨accumulates, -⟩ := degradations_accumulate settled run
  have start (k : Link) : (mesh.network.conditions.modelsFor k).latency = {} := rfl
  refine ⟨settled, done, mesh', run, count, fun k same => ?_, ?_⟩
  · have both := accumulates k l same
    rw [asked] at both
    refine ⟨?_, ?_, both.uniform (by decide), both.loss _ rfl⟩
    · rw [both.min, start]
      decide
    · rw [both.max, start]
      decide
  · rw [(accumulates loop loop (.inl rfl)).max, start, asked_loop]
    decide

end Mesh

end MeshNet
