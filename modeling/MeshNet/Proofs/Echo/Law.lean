import MeshNet.Proofs.Echo.Account
import MeshNet.Proofs.Setup.Agreement

namespace MeshNet

def SimulationOp.meddles : SimulationOp Builtin → Bool
  | mesh op => op.meddles
  | schedule _ _ | clearAgenda | takeFailures | advance _ | runUntil _ _ => false

inductive Simulation.Begins : Simulation Builtin → Prop where
  | ofNetwork (network : Network) (empty : network.inFlight.queue = []) : Begins (.ofNetwork network)
  | ofSetup {catalogue : Catalogue Builtin} {setup : Setup} {entropy : Random.Generator}
      {s : Simulation Builtin} (fresh : catalogue.fresh)
      (built : Simulation.ofSetup catalogue setup entropy = .ok s) : Begins s

def Stage.Answers (t : Stage Builtin) (m : Message) : Prop :=
  (∃ n server settings, t.before.fleet.find? m.link.source = some n ∧ n.isRunning ∧
    n.device = some { firmware := .echoServer server, settings }) ∧
  ∃ p ∈ t.handed, p.link = m.link.reverse ∧ Prompt p.payload ∧ m.payload = echoOf p.payload

namespace Mesh

structure Remembers (mesh : Mesh Builtin) (past : List (Stage Builtin)) : Prop where
  keyed : mesh.fleet.Keyed
  idle : mesh.fleet.Idle
  waiting : ∀ w ∈ mesh.network.inFlight.queue, w.item ∈ past.flatMap (·.sent)
  sent : ∀ t ∈ past, ∀ m ∈ t.sent, Prompt m.payload ∨ isEcho m.payload ∧ t.Answers m
  handed : ∀ t ∈ past, ∀ m ∈ t.handed, isEcho m.payload = false → Prompt m.payload
  prompted : mesh.fleet.echoed + ((past.flatMap (·.removed)).map (·.score.echoed)).sum ≤
    (past.flatMap (·.handed)).countP (!isEcho ·.payload)
  answered : mesh.fleet.answered + ((past.flatMap (·.removed)).map (·.score.answered)).sum +
      mesh.network.echoes ≤
    mesh.fleet.echoed + ((past.flatMap (·.removed)).map (·.score.echoed)).sum

namespace Remembers

variable {mesh mesh' : Mesh Builtin} {past : List (Stage Builtin)}

theorem nil (empty : mesh.network.inFlight.queue = []) (keyed : mesh.fleet.Keyed)
    (idle : mesh.fleet.Idle) (echoed : mesh.fleet.echoed = 0) (answered : mesh.fleet.answered = 0) :
    mesh.Remembers [] := by
  refine ⟨keyed, idle, ?_, ?_, ?_, ?_, ?_⟩
  · rw [empty]
    exact List.forall_mem_nil _
  · exact List.forall_mem_nil _
  · exact List.forall_mem_nil _
  · rw [echoed]
    exact Nat.zero_le _
  · rw [answered, Network.echoes, empty]
    exact Nat.zero_le _

theorem prompt_of_waiting (h : mesh.Remembers past) {w : Waiting Message}
    (hw : w ∈ mesh.network.inFlight.queue) (unechoed : isEcho w.item.payload = false) :
    Prompt w.item.payload := by
  obtain ⟨t, ht, hm⟩ := List.mem_flatMap.mp (h.waiting w hw)
  rcases h.sent t ht w.item hm with prompt | ⟨echo, -⟩
  · exact prompt
  · rw [unechoed] at echo
    cases echo

theorem step (h : mesh.Remembers past) {op : MeshOp Builtin} {events : List Event}
    (own : op.meddles = false) (hs : mesh.step op = .ok (events, mesh')) :
    mesh'.Remembers (past ++ [⟨op, mesh, mesh'⟩]) := by
  have accounts := Stage.accounts h.keyed h.idle own hs
  generalize ht : (⟨op, mesh, mesh'⟩ : Stage Builtin) = t at accounts ⊢
  have before : t.before = mesh := by rw [← ht]
  -- What is handed over was in flight, so it was sent at an earlier stage.
  have handed : ∀ m ∈ t.handed, isEcho m.payload = false → Prompt m.payload := by
    intro m hm unechoed
    obtain ⟨w, hw, rfl⟩ := accounts.handed m hm
    exact h.prompt_of_waiting hw unechoed
  have sent : ∀ m ∈ t.sent, Prompt m.payload ∨ isEcho m.payload ∧ t.Answers m := by
    intro m hm
    obtain prompt | ⟨⟨n, hn, running, serves⟩, p, hp, link, unechoed, echo⟩ := accounts.flushed m hm
    · exact .inl prompt
    · obtain ⟨server, settings, device⟩ := Node.exists_of_serves serves
      refine .inr ⟨echo ▸ isEcho_echoOf p.payload, ⟨n, server, settings, ?_, running, device⟩, p, hp,
        link, handed p hp unechoed, echo⟩
      rw [before, hn]
  have snoc (P : Stage Builtin → Prop) (old : ∀ u ∈ past, P u) (new : P t) :
      ∀ u ∈ past ++ [t], P u :=
    List.forall_mem_append.mpr ⟨old, List.forall_mem_singleton.mpr new⟩
  have echoed := accounts.echoed
  have prompted := accounts.prompted
  have answered := accounts.answered
  have echoes := accounts.echoes
  have past_prompted := h.prompted
  have past_answered := h.answered
  refine ⟨Mesh.keyed_step h.keyed hs, accounts.idle, fun w hw => ?_, snoc _ h.sent sent,
    snoc _ h.handed handed, ?_, ?_⟩
  · rw [List.flatMap_append, List.flatMap_singleton, List.mem_append]
    exact (accounts.waiting w hw).imp_left (h.waiting w)
  · simp only [List.flatMap_append, List.flatMap_singleton, List.map_append, List.sum_append,
      List.countP_append, Stage.handed] at past_prompted ⊢
    omega
  · simp only [List.flatMap_append, List.flatMap_singleton, List.map_append, List.sum_append]
    omega

theorem link (h : mesh.Remembers past) {stages : List (Stage Builtin)}
    (own : ∀ t ∈ stages, t.op.meddles = false) (linked : Stage.Link mesh stages mesh') :
    mesh'.Remembers (past ++ stages) := by
  induction stages generalizing mesh past with
  | nil =>
    cases linked
    rwa [List.append_nil]
  | cons t stages ih =>
    obtain ⟨rfl, ⟨events, hs⟩, linked⟩ := linked
    rw [List.forall_mem_cons] at own
    rw [List.append_cons]
    exact ih (h.step own.1 hs) own.2 linked

end Remembers

end Mesh

namespace Simulation

variable {s s' : Simulation Builtin}

theorem Begins.remembers (h : s.Begins) : s.mesh.Remembers [] := by
  cases h with
  | ofNetwork network empty =>
    exact .nil empty Fleet.Every.empty Fleet.Every.empty Fleet.tally_empty Fleet.tally_empty
  | @ofSetup catalogue setup entropy _ fresh built =>
    obtain ⟨network, hn, built⟩ := exists_of_bind_eq_ok built
    obtain ⟨fleet, hf, built⟩ := exists_of_bind_eq_ok built
    cases built
    obtain ⟨conditions, rfl, -⟩ := Network.exists_inForce_of_ofSetup (eq_ok_of_mapError hn)
    have blank : fleet.Keyed ∧ fleet.Idle ∧ fleet.echoed = 0 ∧ fleet.answered = 0 := by
      refine Fleet.createAll_induction
        (P := fun f => f.Keyed ∧ f.Idle ∧ f.echoed = 0 ∧ f.answered = 0)
        ⟨Fleet.Every.empty, Fleet.Every.empty, Fleet.tally_empty, Fleet.tally_empty⟩ ?_
        (eq_ok_of_mapError hf)
      rintro f g spec ⟨keyed, idle, echoed, answered⟩ hc
      have gains := Fleet.gains_of_create hc
      have blank := Catalogue.blank_of_fresh fresh spec
      exact ⟨keyed.create hc, gains.idle idle blank, (gains.echoed blank).trans echoed,
        (gains.answered blank).trans answered⟩
    obtain ⟨keyed, idle, echoed, answered⟩ := blank
    exact .nil rfl keyed idle echoed answered

theorem echo_traffic_cannot_feed_itself {ops : List (SimulationOp Builtin)} (begins : s.Begins)
    (own : ∀ op ∈ ops, op.meddles = false) (h : s.operateAll ops = .ok s') :
    ∃ stages, s.history ops = .ok stages ∧ Stage.Link s.mesh stages s'.mesh ∧
      (∀ t ∈ stages, ∀ m ∈ t.sent, if isEcho m.payload then t.Answers m else Prompt m.payload) ∧
      (∀ t ∈ stages, ∀ m ∈ t.handed, isEcho m.payload = false ↔ Prompt m.payload) ∧
      ∀ past rest, stages = past ++ rest →
        ∃ mesh, Stage.Link s.mesh past mesh ∧ Stage.Link mesh rest s'.mesh ∧
          (∀ n ∈ mesh.fleet.toList, n.outbox = []) ∧
          (∀ w ∈ mesh.network.inFlight.queue, w.item ∈ past.flatMap (·.sent)) ∧
          ((mesh.fleet.toList ++ past.flatMap (·.removed)).map (·.score.echoed)).sum ≤
            (past.flatMap (·.handed)).countP (!isEcho ·.payload) ∧
          ((mesh.fleet.toList ++ past.flatMap (·.removed)).map (·.score.answered)).sum ≤
            ((mesh.fleet.toList ++ past.flatMap (·.removed)).map (·.score.echoed)).sum := by
  obtain ⟨stages, hs, linked⟩ := exists_history h
  have own : ∀ t ∈ stages, t.op.meddles = false :=
    forall_history (P := fun op => op.meddles = false) (fun _ _ => rfl) (fun _ => rfl) hs
      fun op hop => own (.mesh op) hop
  have remembers := begins.remembers.link own linked
  rw [List.nil_append] at remembers
  refine ⟨stages, hs, linked, fun t ht m hm => ?_, fun t ht m hm => ⟨?_, ?_⟩, ?_⟩
  · rcases remembers.sent t ht m hm with prompt | ⟨echo, answers⟩
    · rwa [if_neg (by simp [prompt.isEcho_eq_false])]
    · rwa [if_pos echo]
  · exact remembers.handed t ht m hm
  · exact Prompt.isEcho_eq_false
  · rintro past rest rfl
    obtain ⟨mesh, before, after⟩ := linked.split
    have remembers := begins.remembers.link (fun t ht => own t (List.mem_append_left _ ht)) before
    rw [List.nil_append] at remembers
    refine ⟨mesh, before, after, fun n hn => ?_, remembers.waiting, ?_, ?_⟩
    · obtain ⟨id, found⟩ := Fleet.mem_toList.mp hn
      exact remembers.idle id n found
    · rw [List.map_append, List.sum_append]
      exact remembers.prompted
    · rw [List.map_append, List.sum_append, List.map_append, List.sum_append]
      exact Nat.le_trans (Nat.le_add_right _ _) remembers.answered

theorem echo_traffic_cannot_feed_itself_crash_and_removal :
    let client : NodeSpec :=
      { id := ⟨2⟩, firmware := "echo-client", settings := .ofList [("request_interval", "3")] }
    let beacon : NodeSpec :=
      { id := ⟨3⟩, firmware := "simple-broadcast", settings := .ofList [("broadcast_interval", "4")] }
    let setup : Setup :=
      { network := { seed := some 7, defaultLatency := .fixed 2 }
        nodes := [{ id := ⟨1⟩, firmware := "echo-server" }, client, beacon,
          { id := ⟨4⟩, firmware := "echo-server" }] }
    let ops : List (SimulationOp Builtin) :=
      [.mesh (.fleet (.startAll 0)), .schedule (.crash ⟨4⟩) 5, .schedule (.restart ⟨4⟩) 7,
        .schedule (.partition [[⟨1⟩, ⟨2⟩], [⟨3⟩, ⟨4⟩]]) 8, .runUntil 10 2,
        .mesh (.fleet (.remove ⟨1⟩ 10)), .schedule .heal 11, .runUntil 16 3]
    (∀ op ∈ ops, op.meddles = false) ∧
    ∃ s s' stages, Simulation.ofSetup .builtins setup (.ofSeed 0) = .ok s ∧ s.Begins ∧
      s.operateAll ops = .ok s' ∧ s.history ops = .ok stages ∧
      (stages.flatMap (·.handed)).countP (!isEcho ·.payload) = 10 ∧
      (stages.flatMap (·.sent)).countP (isEcho ·.payload) = 6 ∧
      (s'.mesh.fleet.toList.map fun n => (n.score.echoed, n.score.answered)) =
        [(0, 2), (0, 0), (3, 0)] ∧
      ((stages.flatMap (·.removed)).map fun n => (n.score.echoed, n.score.answered)) = [(3, 0)] ∧
      ∀ t ∈ stages, ∀ m ∈ t.sent, if isEcho m.payload then t.Answers m else Prompt m.payload := by
  intro client beacon setup ops
  have own : ∀ op ∈ ops, op.meddles = false := by
    decide +kernel
  have ends : ((Simulation.ofSetup .builtins setup (.ofSeed 0)).map fun s =>
      (fun s' : Simulation Builtin => s'.mesh.fleet.toList.map fun n =>
        (n.score.echoed, n.score.answered)) <$> s.operateAll ops) =
        .ok (.ok [(0, 2), (0, 0), (3, 0)]) := by
    decide +kernel
  have past : ((Simulation.ofSetup .builtins setup (.ofSeed 0)).map fun s =>
      (fun stages : List (Stage Builtin) =>
        ((stages.flatMap (·.handed)).countP (!isEcho ·.payload),
          (stages.flatMap (·.sent)).countP (isEcho ·.payload),
          (stages.flatMap (·.removed)).map fun n => (n.score.echoed, n.score.answered))) <$>
        s.history ops) = .ok (.ok (10, 6, [(3, 0)])) := by
    decide +kernel
  obtain ⟨s, built, run⟩ := exists_of_map_eq_ok ends
  obtain ⟨s', h, left⟩ := Checked.map_eq_ok.mp run
  have begins : s.Begins := .ofSetup (by decide +kernel) built
  obtain ⟨stages, hs, -, sent, -⟩ := echo_traffic_cannot_feed_itself begins own h
  rw [built] at past
  simp only [Except.map, hs, Checked.map_ok, Except.ok.injEq, Prod.mk.injEq] at past
  obtain ⟨handed, echoes, removed⟩ := past
  exact ⟨own, s, s', stages, built, begins, h, hs, handed, echoes, left, removed, sent⟩

end Simulation

end MeshNet
