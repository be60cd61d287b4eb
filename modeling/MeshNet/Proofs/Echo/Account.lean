import MeshNet.Proofs.Echo.Exchange

namespace MeshNet

def Catalogue.fresh (c : Catalogue Builtin) : Bool :=
  c.entries.values.all fun b => b.score.echoed = 0 ∧ b.score.answered = 0

def NetworkOp.enqueues : NetworkOp → Bool
  | enqueue _ _ => true
  | drain _ | clear | drops _ | configure _ | cut _ | mend _ | mendAll | resetTraffic => false

def MeshOp.meddles : MeshOp Builtin → Bool
  | network op => op.enqueues
  | fleet (.create catalogue _) => !catalogue.fresh
  | _ => false

theorem Network.sublist_step {n : Network} {op : NetworkOp} (h : op.enqueues = false) :
    (n.step op).2.inFlight.queue.Sublist n.inFlight.queue := by
  cases op with
  | enqueue m now => cases h
  | drain now => exact List.dropWhile_sublist _
  | clear => exact List.nil_sublist _
  | drops l => rw [step, (n.drops_frame l).1]
  | configure setting => rw [step, (n.configure_frame setting).1]
  | cut l | mend l | mendAll | resetTraffic => exact .refl _

namespace Stage

variable {φ : Type} [Firmware φ]

def exchange (s : Stage φ) : Exchange :=
  let none : Exchange := { handed := [], undeliverable := [], offered := [] }
  match s.op with
  | .update now => (s.before.exchange now).toOption.getD none
  | _ => none

def sent (s : Stage φ) : List Message := s.exchange.flushed

def handed (s : Stage φ) : List Message := s.exchange.handed

def removed (s : Stage φ) : List (Node φ) :=
  match s.op with
  | .fleet (.remove id now) => ((s.before.fleet.remove id now).toOption.bind (·.1)).toList
  | _ => []

end Stage

namespace Mesh

theorem Accounts.of_silent {mesh mesh' : Mesh Builtin} {removed : List (Node Builtin)}
    (idle : mesh'.fleet.Idle)
    (queue : mesh'.network.inFlight.queue.Sublist mesh.network.inFlight.queue)
    (echoed : mesh'.fleet.echoed + (removed.map (·.score.echoed)).sum = mesh.fleet.echoed)
    (answered : mesh'.fleet.answered + (removed.map (·.score.answered)).sum =
      mesh.fleet.answered) :
    mesh.Accounts mesh' { handed := [], undeliverable := [], offered := [] } removed where
  idle := idle
  handed := nofun
  waiting _ hw := .inl (queue.subset hw)
  flushed := nofun
  echoed := echoed
  prompted := Nat.zero_le _
  answered := Nat.le_of_eq answered
  echoes := queue.countP_le

theorem Accounts.of_rests {mesh mesh' : Mesh Builtin} {R : NodeId → Node Builtin → Node Builtin → Prop}
    (idle : mesh.fleet.Idle) (nodewise : Fleet.Nodewise R mesh.fleet mesh'.fleet)
    (rests : ∀ id n m, R id n m → n.Rests m)
    (queue : mesh'.network.inFlight.queue.Sublist mesh.network.inFlight.queue) :
    mesh.Accounts mesh' { handed := [], undeliverable := [], offered := [] } [] := by
  refine .of_silent (fun id m hm => ?_) queue ?_ ?_
  · obtain ⟨n, hn⟩ := Option.isSome_iff_exists.mp
      ((nodewise.isSome_find? id).symm.trans (congrArg Option.isSome hm))
    exact (rests id n m (nodewise.rel hn hm)).outbox (idle id n hn)
  · exact nodewise.tally_eq fun id n m hr => by rw [(rests id n m hr).score]
  · exact nodewise.tally_eq fun id n m hr => by rw [(rests id n m hr).score]

end Mesh

structure Node.Blank (n : Node Builtin) : Prop where
  outbox : n.outbox = []
  echoed : n.score.echoed = 0
  answered : n.score.answered = 0

theorem Catalogue.blank_of_fresh {c : Catalogue Builtin} (h : c.fresh) (spec : NodeSpec) :
    Node.Blank { id := spec.id, device := spec.device c } := by
  have counted : ∀ device, spec.device c = some device →
      device.firmware.score.echoed = 0 ∧ device.firmware.score.answered = 0 := by
    intro device hd
    obtain ⟨name, -, hd⟩ := Option.bind_eq_some_iff.mp hd
    obtain ⟨firmware, entry, rfl⟩ := Option.map_eq_some_iff.mp hd
    simpa using List.all_eq_true.mp h firmware (MapSum.mem_values entry)
  cases hd : spec.device c with
  | none => exact ⟨rfl, rfl, rfl⟩
  | some device =>
    obtain ⟨echoed, answered⟩ := counted device hd
    exact ⟨rfl, echoed, answered⟩

namespace Fleet

variable {f g : Fleet Builtin} {n : Node Builtin}

theorem Gains.idle (h : f.Gains g n) (idle : f.Idle) (blank : n.Blank) : g.Idle := by
  intro id m hm
  by_cases he : id = n.id
  · subst he
    obtain rfl := Option.some.inj (h.after.symm.trans hm)
    exact blank.outbox
  · rw [h.others id he] at hm
    exact idle id m hm

theorem Gains.echoed (h : f.Gains g n) (blank : n.Blank) : g.echoed = f.echoed := by
  rw [Fleet.echoed, h.tally_eq, blank.echoed]
  rfl

theorem Gains.answered (h : f.Gains g n) (blank : n.Blank) : g.answered = f.answered := by
  rw [Fleet.answered, h.tally_eq, blank.answered]
  rfl

theorem Loses.idle {id : NodeId} (h : f.Loses g id) (idle : f.Idle) : g.Idle := by
  intro i m hm
  by_cases he : i = id
  · subst he
    rw [h.after] at hm
    cases hm
  · rw [h.others i he] at hm
    exact idle i m hm

theorem remove_eq_ok {φ : Type} {f g : Fleet φ} {id : NodeId} {now : Time} {removed : Option (Node φ)}
    (h : f.remove id now = .ok (removed, g)) :
    removed = none ∧ g = f.observe now ∨
      ∃ n m, f.find? id = some n ∧ n.stop now = .ok m ∧ removed = some m ∧ f.Loses g id := by
  have cases := remove_cases h
  rw [remove] at h
  split at h
  · cases h
    exact .inl ⟨rfl, rfl⟩
  · next n hn =>
    obtain ⟨m, hm, h⟩ := Checked.bind_eq_ok.mp h
    cases h
    obtain ⟨missing, -⟩ | ⟨-, loses⟩ := cases
    · cases missing
    · exact .inr ⟨n, m, hn, hm, rfl, loses⟩

end Fleet

namespace Mesh

variable {mesh : Mesh Builtin} {fleet : Fleet Builtin}

theorem accounts_of_remove {id : NodeId} {now : Time} {removed : Option (Node Builtin)}
    (idle : mesh.fleet.Idle) (h : mesh.fleet.remove id now = .ok (removed, fleet)) :
    mesh.Accounts { mesh with fleet } { handed := [], undeliverable := [], offered := [] }
      removed.toList := by
  obtain ⟨rfl, rfl⟩ | ⟨n, m, hn, hm, rfl, loses⟩ := Fleet.remove_eq_ok h
  · exact .of_silent idle (.refl _) rfl rfl
  · have score := (Node.Rests.stop hm).score
    refine .of_silent (loses.idle idle) (.refl _) ?_ ?_
    · rw [Option.toList_some, List.map_singleton, List.sum_singleton, score, Nat.add_comm]
      exact (loses.tally_eq (μ := (·.score.echoed)) hn).symm
    · rw [Option.toList_some, List.map_singleton, List.sum_singleton, score, Nat.add_comm]
      exact (loses.tally_eq (μ := (·.score.answered)) hn).symm

theorem accounts_of_fleet {op : FleetOp Builtin} (idle : mesh.fleet.Idle)
    (own : (MeshOp.fleet op).meddles = false) (stays : ∀ id now, op ≠ .remove id now)
    (h : mesh.fleet.step op = .ok fleet) :
    mesh.Accounts { mesh with fleet } { handed := [], undeliverable := [], offered := [] } [] := by
  obtain ⟨n, adds, gains⟩ | ⟨id, now, remove, -⟩ | nodewise := FleetOp.step_cases h
  · have blank : n.Blank := by
      cases op with
      | add id =>
        cases adds
        exact ⟨rfl, rfl, rfl⟩
      | create catalogue spec =>
        cases adds
        exact Catalogue.blank_of_fresh (by simpa [MeshOp.meddles] using own) spec
      | remove id now | startAll now | stopAll now | shutdown | call id op
      | adjustTime id now offset => cases adds
    exact .of_silent (gains.idle idle blank) (.refl _) (gains.echoed blank) (gains.answered blank)
  · exact (stays id now remove).elim
  · exact .of_rests idle nodewise (fun _ _ _ => Node.Rests.of_fleetOp) (.refl _)

end Mesh

theorem Stage.accounts {op : MeshOp Builtin} {before after : Mesh Builtin} {events : List Event}
    (keyed : before.fleet.Keyed) (idle : before.fleet.Idle) (own : op.meddles = false)
    (h : before.step op = .ok (events, after)) :
    before.Accounts after (exchange ⟨op, before, after⟩) (removed ⟨op, before, after⟩) := by
  cases op with
  | execute e now =>
    obtain ⟨⟨verdict, mesh⟩, hp, h⟩ := Checked.bind_eq_ok.mp h
    cases h
    have flight := (Event.perform_frame hp).1
    rcases Event.eq_or_effect_of_perform hp with rfl | he
    · exact .of_silent idle (.refl _) rfl rfl
    · refine .of_rests idle (Event.effect_nodewise he) (fun _ _ _ => Node.Rests.of_event) ?_
      rw [flight]
  | update now =>
    obtain ⟨⟨report, mesh⟩, hu, h⟩ := Checked.bind_eq_ok.mp h
    cases h
    obtain ⟨x, hx, accounts⟩ := Mesh.update_accounts keyed idle hu
    simp only [exchange, hx]
    exact accounts
  | network op =>
    cases h
    exact .of_silent idle (Network.sublist_step own) rfl rfl
  | fleet op =>
    obtain ⟨fleet, hf, h⟩ := Checked.bind_eq_ok.mp h
    cases h
    cases op with
    | remove id now =>
      obtain ⟨⟨removed, fleet⟩, hr, rfl⟩ := Checked.map_eq_ok.mp hf
      simp only [Stage.removed, hr]
      exact Mesh.accounts_of_remove idle hr
    | add id | create catalogue spec | startAll now | stopAll now | shutdown | call id op
    | adjustTime id now offset => exact Mesh.accounts_of_fleet idle own nofun hf

end MeshNet
