import MeshNet.Proofs.Event.Degradation
import MeshNet.Proofs.Setup.Agreement

namespace MeshNet

open Std (ExtTreeMap)

inductive Choice (α : Type) where
  | standard (a : α)
  | own (l : Link) (a : α)
  | cleared

namespace Choice

variable {α : Type}

def standard? : Choice α → Option α
  | standard a => some a
  | own _ _ | cleared => none

def own? (l : Link) : Choice α → Option α
  | own k a => if k = l then some a else none
  | standard _ | cleared => none

def clears : Choice α → Bool
  | cleared => true
  | standard _ | own _ _ => false

def latestStandard (usual : α) (log : List (Choice α)) : α :=
  (log.findSome? (·.standard?)).getD usual

def latestOwn? (log : List (Choice α)) (l : Link) : Option α :=
  (log.takeWhile (!·.clears)).findSome? (·.own? l)

def inForce (usual : α) (log : List (Choice α)) (l : Link) : α :=
  (latestOwn? log l).getD (latestStandard usual log)

structure Holds {P : α → Prop} (usual : α) (log : List (Choice α)) (standard : {a // P a})
    (own : ExtTreeMap Link {a // P a}) : Prop where
  standard : standard.val = latestStandard usual log
  own : ∀ l, own[l]?.map (·.val) = latestOwn? log l

namespace Holds

variable {P : α → Prop} {usual : α} {log : List (Choice α)} {standard : {a // P a}}
  {own : ExtTreeMap Link {a // P a}}

theorem empty (a : {a // P a}) : Holds a.val [] a ∅ where
  standard := rfl
  own l := by
    rw [ExtTreeMap.getElem?_empty]
    rfl

theorem standard_cons (h : Holds usual log standard own) (a : {a // P a}) :
    Holds usual (.standard a.val :: log) a own where
  standard := rfl
  own := h.own

theorem own_cons (h : Holds usual log standard own) (l : Link) (a : {a // P a}) :
    Holds usual (.own l a.val :: log) standard (own.insert l a) where
  standard := h.standard
  own k := by
    have other := h.own k
    rw [latestOwn?] at other
    rw [ExtTreeMap.getElem?_insert, latestOwn?, List.takeWhile_cons_of_pos rfl,
      List.findSome?_cons, own?]
    by_cases same : l = k
    · simp [same]
    · simp [same, other]

theorem cleared_cons (h : Holds usual log standard own) :
    Holds usual (.cleared :: log) standard (∅ : ExtTreeMap Link {a // P a}) where
  standard := h.standard
  own l := by
    rw [ExtTreeMap.getElem?_empty]
    rfl

theorem inForce (h : Holds usual log standard own) (l : Link) :
    (own[l]?.getD standard).val = Choice.inForce usual log l := by
  rw [Choice.inForce, ← h.own l, ← h.standard]
  cases own[l]? <;> rfl

end Holds

end Choice

namespace Setting

def offence? : Setting → Option ConditionError
  | defaultLatency m | latency _ m => m.offence?
  | defaultLoss m | loss _ m => m.offence?
  | clearOverrides => none

def latencyChoice? : Setting → Option (Choice LatencyModel)
  | defaultLatency m => some (.standard m)
  | latency l m => some (.own l m)
  | clearOverrides => some .cleared
  | defaultLoss _ | loss _ _ => none

def lossChoice? : Setting → Option (Choice LossModel)
  | defaultLoss m => some (.standard m)
  | loss l m => some (.own l m)
  | clearOverrides => some .cleared
  | defaultLatency _ | latency _ _ => none

def link? : Setting → Option Link
  | latency l _ | loss l _ => some l
  | defaultLatency _ | defaultLoss _ | clearOverrides => none

/-- The setting, if it keeps the rules. -/
def accepted (s : Setting) : List Setting := if s.offence? = none then [s] else []

def latencyInForce (log : List Setting) : Link → LatencyModel :=
  Choice.inForce LatencyModel.usual.val (log.filterMap (·.latencyChoice?))

def lossInForce (log : List Setting) : Link → LossModel :=
  Choice.inForce LossModel.lossless.val (log.filterMap (·.lossChoice?))

end Setting

theorem Setting.discard_apply (s : Setting) (c : Conditions) :
    discard (s.apply c) = firstOf s.offence?.toList := by
  cases s with
  | defaultLatency m | latency l m => exact (discard_map _ _).trans m.discard_check
  | defaultLoss m | loss l m => exact (discard_map _ _).trans m.discard_check
  | clearOverrides => rfl

theorem Setting.apply_eq (s : Setting) (c : Conditions) :
    (∃ d, s.apply c = .ok d ∧ s.offence? = none) ∨
      ∃ error, s.apply c = .error error ∧ s.offence? = some error := by
  have verdict := s.discard_apply c
  cases offence : s.offence? with
  | none =>
    rw [offence] at verdict
    obtain ⟨d, applied⟩ := discard_eq_ok.1 verdict
    exact .inl ⟨d, applied, rfl⟩
  | some error =>
    rw [offence] at verdict
    exact .inr ⟨error, discard_eq_error.1 verdict, rfl⟩

theorem Setting.apply_other {s : Setting} {c d : Conditions} {l k : Link} (h : s.apply c = .ok d)
    (own : s.link? = some l) (other : k ≠ l) :
    d.modelsFor k = c.modelsFor k ∧ d.bursts[k]? = c.bursts[k]? := by
  cases s with
  | latency j m =>
    cases own
    obtain ⟨v, -, rfl⟩ := exists_of_map_eq_ok h
    simp [Conditions.modelsFor, Conditions.latencyFor, Conditions.lossFor,
      ExtTreeMap.getElem?_insert, Ne.symm other]
  | loss j m =>
    cases own
    obtain ⟨v, -, rfl⟩ := exists_of_map_eq_ok h
    simp [Conditions.modelsFor, Conditions.latencyFor, Conditions.lossFor,
      ExtTreeMap.getElem?_insert, ExtTreeMap.getElem?_erase, Ne.symm other]
  | defaultLatency m | defaultLoss m | clearOverrides => cases own

namespace Conditions

structure Records (c : Conditions) (log : List Setting) : Prop where
  latency : Choice.Holds LatencyModel.usual.val (log.filterMap (·.latencyChoice?))
    c.defaultLatency c.latencies
  loss : Choice.Holds LossModel.lossless.val (log.filterMap (·.lossChoice?))
    c.defaultLoss c.losses

namespace Records

variable {c d : Conditions} {log : List Setting}

theorem start (source : Random.Source) : Records { source } [] where
  latency := .empty _
  loss := .empty _

theorem latencyFor (h : c.Records log) (l : Link) :
    (c.latencyFor l).val = Setting.latencyInForce log l := h.latency.inForce l

theorem lossFor (h : c.Records log) (l : Link) :
    (c.lossFor l).val = Setting.lossInForce log l := h.loss.inForce l

theorem of_models (h : c.Records log) (kept : d.models = c.models) : d.Records log := by
  have defaultLatency : d.defaultLatency = c.defaultLatency := congrArg (·.defaultLatency) kept
  have latencies : d.latencies = c.latencies := congrArg (·.latencies) kept
  have defaultLoss : d.defaultLoss = c.defaultLoss := congrArg (·.defaultLoss) kept
  have losses : d.losses = c.losses := congrArg (·.losses) kept
  constructor
  · rw [defaultLatency, latencies]
    exact h.latency
  · rw [defaultLoss, losses]
    exact h.loss

theorem apply (h : c.Records log) {s : Setting} (accepted : s.apply c = .ok d) :
    d.Records (s :: log) := by
  cases s with
  | defaultLatency m =>
    obtain ⟨v, checked, rfl⟩ := exists_of_map_eq_ok accepted
    obtain rfl := LatencyModel.val_of_check checked
    exact ⟨h.latency.standard_cons v, h.loss⟩
  | latency l m =>
    obtain ⟨v, checked, rfl⟩ := exists_of_map_eq_ok accepted
    obtain rfl := LatencyModel.val_of_check checked
    exact ⟨h.latency.own_cons l v, h.loss⟩
  | defaultLoss m =>
    obtain ⟨v, checked, rfl⟩ := exists_of_map_eq_ok accepted
    obtain rfl := LossModel.val_of_check checked
    exact ⟨h.latency, h.loss.standard_cons v⟩
  | loss l m =>
    obtain ⟨v, checked, rfl⟩ := exists_of_map_eq_ok accepted
    obtain rfl := LossModel.val_of_check checked
    exact ⟨h.latency, h.loss.own_cons l v⟩
  | clearOverrides =>
    cases accepted
    exact ⟨h.latency.cleared_cons, h.loss.cleared_cons⟩

end Records

end Conditions

def Event.settings (log : List Setting) : Event → List Setting
  | degrade l latency loss =>
    if Random.IsProbability loss then
      [.loss l.reverse { probability := loss }, .loss l { probability := loss },
        .latency l.reverse ((Setting.latencyInForce log l.reverse).raised latency),
        .latency l ((Setting.latencyInForce log l).raised latency)]
    else []
  | start _ | stop _ _ | crash _ | restart _ | drop _ | restore _ | partition _ | heal => []

def NetworkOp.accepted : NetworkOp → List Setting
  | configure s => s.accepted
  | enqueue _ _ | drops _ | drain _ | clear | cut _ | mend _ | mendAll | resetTraffic => []

def ConditionOp.accepted : ConditionOp → List Setting
  | configure s => s.accepted
  | sampleLoss _ | sampleLatency _ | reseed _ => []

inductive ConditionCall (φ : Type) where
  | around (op : MeshOp φ)
  | direct (op : ConditionOp)

namespace ConditionCall

variable {φ : Type}

def settings (log : List Setting) : ConditionCall φ → List Setting
  | around (.execute e _) => e.settings log
  | around (.network op) => op.accepted
  | around (.update _) | around (.fleet _) => []
  | direct op => op.accepted

def record (log : List Setting) (call : ConditionCall φ) : List Setting := call.settings log ++ log

def certain : ConditionCall φ → Bool
  | around (.network _) | around (.execute (.degrade _ _ _) _) | direct _ => true
  | around (.execute _ _) | around (.update _) | around (.fleet _) => false

end ConditionCall

variable {φ : Type} [Firmware φ]

def Mesh.take (mesh : Mesh φ) : ConditionCall φ → Checked (Mesh φ)
  | .around op => (·.2) <$> mesh.step op
  | .direct op => .ok { mesh with
      network := { mesh.network with conditions := (mesh.network.conditions.step op).2 } }

namespace Conditions.Records

variable {c : Conditions} {log : List Setting}

theorem degraded (h : c.Records log) (l : Link) (latency : UInt32) {loss : Float}
    (valid : Random.IsProbability loss) :
    (c.degraded l latency ⟨_, LossModel.valid_independent valid⟩).Records
      ((Event.degrade l latency loss).settings log ++ log) := by
  have raised (k : Link) : ((c.latencyFor k).val.raised latency).Valid :=
    LatencyModel.valid_raised (c.latencyFor k).property latency
  have lossy := LossModel.valid_independent valid
  have forward := h.apply (s := .latency l _) (setLatency_of_valid (raised l))
  have both := forward.apply (s := .latency l.reverse _) (setLatency_of_valid (raised l.reverse))
  have losing := both.apply (s := .loss l _) (setLoss_of_valid lossy)
  have all := losing.apply (s := .loss l.reverse _) (setLoss_of_valid lossy)
  rw [Event.settings, if_pos valid, ← h.latencyFor, ← h.latencyFor]
  exact all

theorem configure (h : c.Records log) (s : Setting) :
    (c.step (.configure s)).2.Records (s.accepted ++ log) := by
  rw [step, Setting.accepted]
  obtain ⟨d, applied, kept⟩ | ⟨error, refused, broken⟩ := s.apply_eq c
  · rw [applied, if_pos kept]
    exact h.apply applied
  · rw [refused, if_neg (by simp [broken])]
    exact h

theorem step (h : c.Records log) (op : ConditionOp) :
    (c.step op).2.Records (op.accepted ++ log) := by
  cases op with
  | configure s => exact h.configure s
  | sampleLoss l => exact h.of_models (c.models_sampleLoss l)
  | sampleLatency l | reseed source => exact h.of_models rfl

end Conditions.Records

namespace Network

theorem conditions_configure (n : Network) (s : Setting) :
    (n.configure s).2.conditions = (n.conditions.step (.configure s)).2 := by
  rw [configure, reconfigure, Conditions.step]
  cases s.apply n.conditions <;> rfl

theorem records_step {n : Network} {log : List Setting} (h : n.conditions.Records log)
    (op : NetworkOp) : (n.step op).2.conditions.Records (op.accepted ++ log) := by
  cases op with
  | configure s =>
    rw [step, conditions_configure]
    exact h.configure s
  | enqueue m now | drops l | drain now | clear | cut l | mend l | mendAll | resetTraffic =>
    exact h.of_models (models_step rfl)

theorem configure_eq (n : Network) (s : Setting) :
    (n.configure s).1 = s.offence? ∧
      (s.offence? ≠ none → (n.configure s).2 = n) := by
  rw [configure, reconfigure]
  obtain ⟨d, applied, kept⟩ | ⟨error, refused, broken⟩ := s.apply_eq n.conditions
  · rw [applied, kept]
    exact ⟨rfl, fun some_broken => absurd rfl some_broken⟩
  · rw [refused, broken]
    exact ⟨rfl, fun _ => rfl⟩

theorem configure_other (n : Network) {s : Setting} {l k : Link} (own : s.link? = some l)
    (other : k ≠ l) :
    (n.configure s).2.conditions.modelsFor k = n.conditions.modelsFor k ∧
      (n.configure s).2.conditions.bursts[k]? = n.conditions.bursts[k]? := by
  rw [conditions_configure, Conditions.step]
  cases applied : s.apply n.conditions with
  | error error => exact ⟨rfl, rfl⟩
  | ok d => exact Setting.apply_other applied own other

end Network

namespace Mesh

variable {mesh mesh' : Mesh φ} {log : List Setting}

theorem records_execute (h : mesh.network.conditions.Records log) {e : Event} {now : Time}
    {verdict : Except EventError Unit}
    (hp : ((e.perform now).run.run mesh : Checked _) = .ok (verdict, mesh')) :
    mesh'.network.conditions.Records (e.settings log ++ log) := by
  cases e with
  | degrade l latency loss =>
    rw [Event.perform_degrade] at hp
    by_cases valid : Random.IsProbability loss
    · rw [dif_pos valid] at hp
      cases hp
      exact h.degraded l latency valid
    · rw [dif_neg valid] at hp
      cases hp
      rw [Event.settings, if_neg valid]
      exact h
  | start id | stop id graceful | crash id | restart id | drop l | restore l | partition groups
  | heal => exact h.of_models (congrArg _ (Event.conditions_perform (by simp) hp))

theorem records_take (h : mesh.network.conditions.Records log) {call : ConditionCall φ}
    (taken : mesh.take call = .ok mesh') :
    mesh'.network.conditions.Records (call.record log) := by
  cases call with
  | direct op =>
    cases taken
    exact h.step op
  | around op =>
    obtain ⟨⟨done, mesh''⟩, stepped, rfl⟩ := Checked.map_eq_ok.1 taken
    cases op with
    | execute e now =>
      obtain ⟨⟨verdict, after⟩, hp, rest⟩ := Checked.bind_eq_ok.1 stepped
      cases rest
      exact records_execute h hp
    | update now =>
      obtain ⟨⟨report, after⟩, updated, rest⟩ := Checked.bind_eq_ok.1 stepped
      cases rest
      exact h.of_models (models_update updated)
    | network op =>
      cases stepped
      exact Network.records_step h op
    | fleet op =>
      obtain ⟨fleet, -, rest⟩ := Checked.bind_eq_ok.1 stepped
      cases rest
      exact h

theorem records_takes (h : mesh.network.conditions.Records log) {calls : List (ConditionCall φ)}
    (run : calls.foldlM take mesh = .ok mesh') :
    mesh'.network.conditions.Records (calls.foldl ConditionCall.record log) := by
  induction calls generalizing mesh log with
  | nil =>
    cases run
    exact h
  | cons call calls ih =>
    rw [List.foldlM_cons] at run
    obtain ⟨next, taken, run⟩ := Checked.bind_eq_ok.1 run
    exact ih (records_take h taken) run

theorem exists_take {call : ConditionCall φ} (certain : call.certain = true) (mesh : Mesh φ) :
    ∃ mesh', mesh.take call = .ok mesh' := by
  cases call with
  | direct op => exact ⟨_, rfl⟩
  | around op =>
    cases op with
    | network op => exact ⟨_, rfl⟩
    | execute e now =>
      cases e with
      | degrade l latency loss =>
        rw [take, step, Event.perform_degrade]
        split
        · exact ⟨_, rfl⟩
        · exact ⟨_, rfl⟩
      | start id | stop id graceful | crash id | restart id | drop l | restore l
      | partition groups | heal => cases certain
    | update now | fleet op => cases certain

theorem exists_takes {calls : List (ConditionCall φ)} (certain : ∀ call ∈ calls, call.certain = true)
    (mesh : Mesh φ) : ∃ mesh', calls.foldlM take mesh = .ok mesh' := by
  induction calls generalizing mesh with
  | nil => exact ⟨mesh, rfl⟩
  | cons call calls ih =>
    rw [List.forall_mem_cons] at certain
    obtain ⟨next, taken⟩ := exists_take certain.1 mesh
    rw [List.foldlM_cons, taken]
    exact ih certain.2 next

theorem in_force_is_latest_accepted {source : Random.Source} {calls : List (ConditionCall φ)}
    (fresh : mesh.network.conditions = { source }) (run : calls.foldlM take mesh = .ok mesh') :
    let log := calls.foldl ConditionCall.record []
    let now := mesh'.network
    (∀ l, (now.conditions.latencyFor l).val = Setting.latencyInForce log l ∧
      (now.conditions.lossFor l).val = Setting.lossInForce log l ∧
      (Setting.latencyInForce log l).check = .ok (now.conditions.latencyFor l) ∧
      (Setting.lossInForce log l).check = .ok (now.conditions.lossFor l) ∧
      ∀ g, let p := (Setting.lossInForce log l).probability
        Random.checkedChance p g = .ok (Random.chance p g)) ∧
    (∀ (n : Network) (s : Setting), (n.configure s).1 = s.offence? ∧
      (s.offence? ≠ none → (n.configure s).2 = n)) ∧
    (∀ (n : Network) (s : Setting) (l k : Link), s.link? = some l → k ≠ l →
      (n.configure s).2.conditions.modelsFor k = n.conditions.modelsFor k ∧
        (n.configure s).2.conditions.bursts[k]? = n.conditions.bursts[k]?) ∧
    ∀ more : List (ConditionCall φ), (∀ call ∈ more, call.certain = true) →
      ∃ next, more.foldlM take mesh' = .ok next := by
  intro log now
  have start : mesh.network.conditions.Records [] := by
    rw [fresh]
    exact .start source
  have records : now.conditions.Records log := records_takes start run
  refine ⟨fun l => ?_, Network.configure_eq, fun n s l k own other => n.configure_other own other,
    fun more certain => exists_takes certain mesh'⟩
  have latency := records.latencyFor l
  have loss := records.lossFor l
  rw [← latency, ← loss]
  have probability := (now.conditions.lossFor l).property.1
  exact ⟨rfl, rfl, LatencyModel.check_of_valid (now.conditions.latencyFor l).property,
    LossModel.check_of_valid (now.conditions.lossFor l).property, fun g => if_pos probability⟩

theorem in_force_is_latest_accepted_of_mixed :
    let k : Link := ⟨⟨2⟩, ⟨1⟩⟩
    let l : Link := ⟨⟨1⟩, ⟨2⟩⟩
    let mesh : Mesh Builtin := { network := .seeded 1 }
    let stuck : LossModel := { probability := 0.25, burstMode := true, burstLength := 0 }
    let calls : List (ConditionCall Builtin) :=
      [.direct (.configure (.latency k (.fixed 9))), .around (.network (.configure .clearOverrides)),
        .around (.network (.configure (.defaultLatency (.fixed 7)))),
        .direct (.configure (.defaultLatency { min := 30, max := 20 })),
        .around (.execute (.degrade l 40 0.5) 1), .around (.execute (.degrade l 90 2.0) 1),
        .around (.network (.drops l)), .direct (.sampleLatency k),
        .around (.network (.configure (.latency k (.fixed 5)))),
        .around (.network (.configure (.loss l stuck)))]
    ∃ mesh', calls.foldlM take mesh = .ok mesh' ∧
      (mesh'.network.conditions.latencyFor l).val = ⟨40, 80, .uniform⟩ ∧
      (mesh'.network.conditions.latencyFor k).val = .fixed 5 ∧
      (mesh'.network.conditions.latencyFor ⟨⟨3⟩, ⟨1⟩⟩).val = .fixed 7 ∧
      (mesh'.network.conditions.lossFor l).val.probability = 0.5 ∧
      mesh'.network.configure (.loss l stuck) = (some .burstLength, mesh'.network) ∧
      ((mesh'.network.configure (.latency l (.fixed 1))).2.conditions.modelsFor k).latency =
        .fixed 5 := by
  intro k l mesh stuck calls
  obtain ⟨mesh', run⟩ := exists_takes (show ∀ call ∈ calls, call.certain = true by decide) mesh
  obtain ⟨in_force, refused, other, -⟩ := in_force_is_latest_accepted rfl run
  have latency : (mesh'.network.conditions.latencyFor k).val = .fixed 5 := by
    rw [(in_force k).1]
    decide +kernel
  have broken : (Setting.loss l stuck).offence? = some .burstLength := by
    decide +kernel
  obtain ⟨told, unchanged⟩ := refused mesh'.network (.loss l stuck)
  refine ⟨mesh', run, ?_, latency, ?_, ?_, ?_, ?_⟩
  · rw [(in_force l).1]
    decide +kernel
  · rw [(in_force _).1]
    decide +kernel
  · rw [(in_force l).2.1]
    decide +kernel
  · exact Prod.ext (told.trans broken) (unchanged (by simp [broken]))
  · rw [(other mesh'.network (.latency l (.fixed 1)) l k rfl (by decide)).1]
    exact latency

end Mesh

end MeshNet
