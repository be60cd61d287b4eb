import MeshNet.Proofs.Event.Outcome
import MeshNet.Proofs.Loss.Tracking
import MeshNet.Setup.Build
import MeshNet.Setup.Text

namespace MeshNet

open Std (ExtTreeMap)

section Walk

variable {ε α β γ : Type}

def firstOf : List ε → Except ε Unit
  | [] => .ok ()
  | e :: _ => .error e

theorem firstOf_append (es fs : List ε) :
    firstOf (es ++ fs) = firstOf es >>= fun _ => firstOf fs := by
  cases es <;> rfl

theorem discard_eq_ok {x : Except ε α} : discard x = .ok () ↔ ∃ a, x = .ok a := by
  cases x with
  | error e => exact ⟨nofun, nofun⟩
  | ok a => exact ⟨fun _ => ⟨a, rfl⟩, fun _ => rfl⟩

theorem discard_eq_error {x : Except ε α} {e : ε} : discard x = .error e ↔ x = .error e := by
  cases x with
  | error f => exact ⟨fun h => by cases h; rfl, fun h => by cases h; rfl⟩
  | ok a => exact ⟨nofun, nofun⟩

theorem discard_map (x : Except ε α) (f : α → β) : discard (x.map f) = discard x := by
  cases x <;> rfl

theorem exists_of_bind_eq_ok {x : Except ε α} {f : α → Except ε β} {b : β}
    (h : x >>= f = .ok b) : ∃ a, x = .ok a ∧ f a = .ok b := by
  cases x with
  | error e => cases h
  | ok a => exact ⟨a, rfl, h⟩

theorem eq_ok_of_mapError {x : Except ε α} {f : ε → γ} {a : α} (h : x.mapError f = .ok a) :
    x = .ok a := by
  cases x with
  | error e => cases h
  | ok b => exact congrArg Except.ok (Except.ok.inj h)

theorem discard_bind {x : Except ε α} {f : α → Except ε β} {y z : Except ε Unit}
    (hx : discard x = y) (hf : ∀ a, discard (f a) = z) :
    discard (x >>= f) = y >>= fun _ => z := by
  subst hx
  cases x with
  | error e => rfl
  | ok a => exact hf a

theorem discard_foldlM {step : β → α → Except ε β} {check : α → Except ε Unit}
    (h : ∀ b a, discard (step b a) = check a) (as : List α) (b : β) :
    discard (as.foldlM step b) = as.forM check := by
  induction as generalizing b with
  | nil => rfl
  | cons a as ih =>
    rw [List.foldlM_cons]
    exact discard_bind (h b a) ih

theorem forM_eq_firstOf {check : α → Except ε Unit} {offence? : α → Option ε}
    (h : ∀ a, check a = firstOf (offence? a).toList) (as : List α) :
    as.forM check = firstOf (as.filterMap offence?) := by
  induction as with
  | nil => rfl
  | cons a as ih =>
    have cons : (a :: as).forM check = check a >>= fun _ => as.forM check := rfl
    rw [cons, h, ih, ← firstOf_append]
    cases ha : offence? a <;> simp [ha]

end Walk

def LatencyModel.offence? (m : LatencyModel) : Option ConditionError :=
  if m.max < m.min then some (.latencyBounds m.min m.max) else none

def LossModel.offence? (m : LossModel) : Option ConditionError :=
  if ¬ Random.IsProbability m.probability then some (.lossProbability m.probability)
  else if m.burstMode = true ∧ m.burstLength = 0 then some .burstLength
  else none

def NetworkSetup.offences (s : NetworkSetup) : List ConditionError :=
  s.defaultLatency.offence?.toList ++ s.defaultLoss.offence?.toList ++
    s.latencyOverrides.filterMap (·.model.offence?) ++ s.lossOverrides.filterMap (·.model.offence?)

theorem LatencyModel.discard_check (m : LatencyModel) :
    discard m.check = firstOf m.offence?.toList := by
  by_cases h : m.Valid
  · have inRange : ¬ m.max < m.min := UInt32.not_lt.mpr h
    rw [check_of_valid h, offence?, if_neg inRange]
    rfl
  · have crossed : m.max < m.min := UInt32.not_le.mp h
    rw [check_of_not_valid h, offence?, if_pos crossed]
    rfl

theorem LossModel.discard_check (m : LossModel) :
    discard m.check = firstOf m.offence?.toList := by
  rw [check, offence?]
  by_cases hp : Random.IsProbability m.probability
  · rw [dif_pos hp, if_neg (not_not.mpr hp)]
    by_cases hb : m.burstMode = true ∧ m.burstLength = 0
    · rw [dif_neg fun h => h hb.1 hb.2, if_pos hb]
      rfl
    · rw [dif_pos fun mode zero => hb ⟨mode, zero⟩, if_neg hb]
      rfl
  · rw [dif_neg hp, if_pos hp]
    rfl

theorem NetworkSetup.check_eq (s : NetworkSetup) : s.check = firstOf s.offences := by
  have latencies := forM_eq_firstOf
    (fun o : Override LatencyModel => o.model.discard_check) s.latencyOverrides
  have losses := forM_eq_firstOf
    (fun o : Override LossModel => o.model.discard_check) s.lossOverrides
  simp only [offences, firstOf_append]
  rw [← LatencyModel.discard_check, ← LossModel.discard_check, ← latencies, ← losses, bind_assoc,
    bind_assoc]
  rfl

def Override.modelFor {μ : Type} (os : List (Override μ)) (l : Link) (default : μ) : μ :=
  ((os.filter (·.link = l)).getLast?.map (·.model)).getD default

theorem Override.modelFor_cons {μ : Type} (o : Override μ) (os : List (Override μ)) (l : Link)
    (default : μ) :
    modelFor (o :: os) l default = modelFor os l (if o.link = l then o.model else default) := by
  by_cases h : o.link = l
  · have head : (o :: os).filter (·.link = l) = o :: os.filter (·.link = l) :=
      List.filter_cons_of_pos (by simpa using h)
    rw [modelFor, modelFor, head, List.getLast?_cons, if_pos h]
    cases (os.filter (·.link = l)).getLast? <;> rfl
  · have head : (o :: os).filter (·.link = l) = os.filter (·.link = l) :=
      List.filter_cons_of_neg (by simpa using h)
    rw [modelFor, modelFor, head, if_neg h]

theorem LatencyModel.val_of_check {m : LatencyModel} {v : {m : LatencyModel // m.Valid}}
    (h : m.check = .ok v) : v.val = m := by
  rw [check] at h
  split at h
  · cases h
    rfl
  · cases h

theorem LossModel.val_of_check {m : LossModel} {v : {m : LossModel // m.Valid}}
    (h : m.check = .ok v) : v.val = m := by
  obtain ⟨hm⟩ : Nonempty m.Valid := ⟨check_ok_iff.mp ⟨v, h⟩⟩
  rw [check_of_valid hm] at h
  cases h
  rfl

structure Conditions.InForce (c : Conditions) (lat : Link → LatencyModel) (loss : Link → LossModel) :
    Prop where
  latency : ∀ l, (c.latencyFor l).val = lat l
  loss : ∀ l, (c.lossFor l).val = loss l
  calm : c.bursts = ∅

namespace Conditions.InForce

variable {c c' : Conditions} {lat : Link → LatencyModel} {loss : Link → LossModel}

theorem setLatency (h : c.InForce lat loss) {l : Link} {m : LatencyModel}
    (set : c.setLatency l m = .ok c') :
    c'.InForce (fun k => if l = k then m else lat k) loss := by
  obtain ⟨v, check, rfl⟩ := exists_of_map_eq_ok set
  have own : v.val = m := LatencyModel.val_of_check check
  refine ⟨fun k => ?_, h.loss, h.calm⟩
  by_cases hk : l = k
  · simp [latencyFor, hk, own]
  · simpa [latencyFor, ExtTreeMap.getElem?_insert, Std.compare_eq_iff_eq, hk] using h.latency k

theorem setLoss (h : c.InForce lat loss) {l : Link} {m : LossModel} (set : c.setLoss l m = .ok c') :
    c'.InForce lat (fun k => if l = k then m else loss k) := by
  obtain ⟨v, check, rfl⟩ := exists_of_map_eq_ok set
  have own : v.val = m := LossModel.val_of_check check
  refine ⟨h.latency, fun k => ?_, by simp [h.calm]⟩
  by_cases hk : l = k
  · simp [lossFor, hk, own]
  · simpa [lossFor, ExtTreeMap.getElem?_insert, Std.compare_eq_iff_eq, hk] using h.loss k

theorem setLatencies {os : List (Override LatencyModel)} (h : c.InForce lat loss)
    (set : os.foldlM (fun c o => c.setLatency o.link o.model) c = .ok c') :
    c'.InForce (fun l => Override.modelFor os l (lat l)) loss := by
  induction os generalizing c lat with
  | nil =>
    cases set
    exact h
  | cons o os ih =>
    rw [List.foldlM_cons] at set
    obtain ⟨next, first, rest⟩ := exists_of_bind_eq_ok set
    simpa only [Override.modelFor_cons] using ih (h.setLatency first) rest

theorem setLosses {os : List (Override LossModel)} (h : c.InForce lat loss)
    (set : os.foldlM (fun c o => c.setLoss o.link o.model) c = .ok c') :
    c'.InForce lat (fun l => Override.modelFor os l (loss l)) := by
  induction os generalizing c loss with
  | nil =>
    cases set
    exact h
  | cons o os ih =>
    rw [List.foldlM_cons] at set
    obtain ⟨next, first, rest⟩ := exists_of_bind_eq_ok set
    simpa only [Override.modelFor_cons] using ih (h.setLoss first) rest

theorem of_defaults {source : Random.Source} {m : LatencyModel} {n : LossModel} {c c' : Conditions}
    (first : ({ source } : Conditions).setDefaultLatency m = .ok c)
    (second : c.setDefaultLoss n = .ok c') : c'.InForce (fun _ => m) fun _ => n := by
  obtain ⟨v, checkLatency, rfl⟩ := exists_of_map_eq_ok first
  obtain ⟨w, checkLoss, rfl⟩ := exists_of_map_eq_ok second
  have latency : v.val = m := LatencyModel.val_of_check checkLatency
  have loss : w.val = n := LossModel.val_of_check checkLoss
  -- No link has a model of its own yet.
  exact ⟨fun l => by simp [latencyFor, latency], fun l => by simp [lossFor, loss], rfl⟩

end Conditions.InForce

namespace Network

theorem discard_ofSetup (s : NetworkSetup) (entropy : Random.Generator) :
    discard (ofSetup s entropy) = s.check := by
  have latency (c : Conditions) (m) : discard (c.setDefaultLatency m) = discard m.check :=
    discard_map m.check _
  have loss (c : Conditions) (m) : discard (c.setDefaultLoss m) = discard m.check :=
    discard_map m.check _
  refine discard_bind (latency _ _) fun c => discard_bind (loss c _) fun c => ?_
  have latencies (c : Conditions) (o : Override LatencyModel) :
      discard (c.setLatency o.link o.model) = discard o.model.check := discard_map o.model.check _
  have losses (c : Conditions) (o : Override LossModel) :
      discard (c.setLoss o.link o.model) = discard o.model.check := discard_map o.model.check _
  refine discard_bind (discard_foldlM latencies _ c) fun c => ?_
  have built := discard_foldlM losses s.lossOverrides c
  exact (discard_bind (z := .ok ()) built fun c => rfl).trans bind_pure_unit

theorem exists_inForce_of_ofSetup {s : NetworkSetup} {entropy : Random.Generator} {n : Network}
    (h : ofSetup s entropy = .ok n) :
    ∃ c : Conditions, n = { conditions := c } ∧
      c.InForce (fun l => Override.modelFor s.latencyOverrides l s.defaultLatency)
        fun l => Override.modelFor s.lossOverrides l s.defaultLoss := by
  obtain ⟨c₁, first, h⟩ := exists_of_bind_eq_ok h
  obtain ⟨c₂, second, h⟩ := exists_of_bind_eq_ok h
  obtain ⟨c₃, latencies, h⟩ := exists_of_bind_eq_ok h
  obtain ⟨c₄, losses, h⟩ := exists_of_bind_eq_ok h
  have defaults := Conditions.InForce.of_defaults first second
  exact ⟨c₄, (Except.ok.inj h).symm, (defaults.setLatencies latencies).setLosses losses⟩

end Network

theorem Setup.check_of_parse {text : String} {s : Setup} (h : parse text = .ok s) :
    s.network.check = .ok () := by
  rw [parse] at h
  split at h
  · cases h
  · split at h
    · rename_i valid
      cases h
      exact valid
    · cases h

theorem Fleet.createAll_induction {φ : Type} {P : Fleet φ → Prop} {catalogue : Catalogue φ}
    {specs : List NodeSpec} {f g : Fleet φ} (start : P f)
    (create : ∀ f g spec, P f → f.create catalogue spec = .ok g → P g)
    (h : createAll catalogue specs f = .ok g) : P g := by
  induction specs generalizing f with
  | nil =>
    cases h
    exact start
  | cons spec specs ih =>
    obtain ⟨next, first, rest⟩ := exists_of_bind_eq_ok h
    exact ih (create f next spec start first) rest

theorem Simulation.ofSetup_ne_invalid {φ : Type} {catalogue : Catalogue φ} {s : Setup}
    {entropy : Random.Generator} (valid : s.network.check = .ok ()) (e : ConditionError) :
    ofSetup catalogue s entropy ≠ .error (.invalid e) := by
  obtain ⟨n, built⟩ := discard_eq_ok.mp (valid ▸ Network.discard_ofSetup s.network entropy)
  intro h
  rw [ofSetup, built] at h
  change ((Fleet.createAll catalogue s.nodes ∅).mapError _ >>= fun fleet => _) = _ at h
  cases hf : Fleet.createAll catalogue s.nodes ∅ with
  | error f =>
    rw [hf] at h
    cases h
  | ok fleet =>
    rw [hf] at h
    cases h

theorem Network.building_agrees_with_checking (s : NetworkSetup) (entropy : Random.Generator) :
    s.check = firstOf s.offences ∧
    (∀ e, Network.ofSetup s entropy = .error e ↔ s.check = .error e) ∧
    ((∃ n, Network.ofSetup s entropy = .ok n) ↔ s.check = .ok ()) ∧
    (∀ n, Network.ofSetup s entropy = .ok n →
      (∀ l, (n.conditions.latencyFor l).val =
          Override.modelFor s.latencyOverrides l s.defaultLatency ∧
        (n.conditions.lossFor l).val = Override.modelFor s.lossOverrides l s.defaultLoss ∧
        n.cuts.active l = true) ∧
      n.conditions.bursts = ∅ ∧ n.inFlight = ∅ ∧ n.traffic = ∅) ∧
    ∀ text setup, Setup.parse text = .ok setup →
      ∀ {φ : Type} (catalogue : Catalogue φ) (e : ConditionError),
        Simulation.ofSetup catalogue setup entropy ≠ .error (.invalid e) := by
  refine ⟨?_, fun e => ?_, ?_, fun n built => ?_, fun text setup read φ catalogue e => ?_⟩
  · exact s.check_eq
  · rw [← discard_eq_error, discard_ofSetup s entropy]
  · rw [← discard_eq_ok, discard_ofSetup s entropy]
  · obtain ⟨c, rfl, force⟩ := exists_inForce_of_ofSetup built
    exact ⟨fun l => ⟨force.latency l, force.loss l, Cuts.active_empty l⟩, force.calm, rfl, rfl⟩
  · exact Simulation.ofSetup_ne_invalid (Setup.check_of_parse read) e

theorem Network.building_agrees_with_checking_repeated_override :
    let l : Link := ⟨⟨1⟩, ⟨2⟩⟩
    let s : NetworkSetup :=
      { seed := some 3, latencyOverrides := [⟨l, .fixed 5⟩, ⟨l.reverse, .fixed 6⟩, ⟨l, .fixed 7⟩] }
    let crossed : NetworkSetup :=
      { s with defaultLoss := { burstMode := true, burstLength := 0 }
               lossOverrides := [⟨l, { probability := 2.0 }⟩] }
    let text := "[network.default_latency]\nmin = 4\n"
    let entropy := Random.Generator.ofSeed 0
    (∃ n, ofSetup s entropy = .ok n ∧ (n.conditions.latencyFor l).val = .fixed 7 ∧
      (n.conditions.lossFor l).val = {}) ∧
    ofSetup crossed entropy = .error .burstLength ∧
    ∃ setup, Setup.parse text = .ok setup ∧
      ∀ e, Simulation.ofSetup Catalogue.builtins setup entropy ≠ .error (.invalid e) := by
  intro l s crossed text entropy
  obtain ⟨-, -, accepted, described, readable⟩ := building_agrees_with_checking s entropy
  obtain ⟨-, refused, -⟩ := building_agrees_with_checking crossed entropy
  have valid : s.check = .ok () := by decide +kernel
  have offended : crossed.check = .error .burstLength := by decide +kernel
  have read : (Setup.parse text).isOk = true := by decide +kernel
  refine ⟨?_, (refused _).mpr offended, ?_⟩
  · obtain ⟨n, built⟩ := accepted.mpr valid
    obtain ⟨models, -⟩ := described n built
    obtain ⟨latency, loss, -⟩ := models l
    exact ⟨n, built, latency, loss⟩
  · cases h : Setup.parse text with
    | error e =>
      rw [h] at read
      cases read
    | ok setup => exact ⟨setup, rfl, readable text setup h Catalogue.builtins⟩

end MeshNet
