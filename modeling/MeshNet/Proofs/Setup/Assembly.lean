import MeshNet.Proofs.Fleet.Register
import MeshNet.Proofs.Setup.Agreement

namespace MeshNet

variable {φ : Type}

namespace NodeSpec

def offence? (catalogue : Catalogue φ) (earlier : List NodeSpec) (spec : NodeSpec) :
    Option NodeError :=
  if spec.id.val = 0 then some .invalidId
  else if spec.id ∈ earlier.map (·.id) then some (.alreadyExists spec.id)
  else if 1000 ≤ earlier.length then some (.capacityReached 1000)
  else spec.firmware.bind fun name =>
    if catalogue.registered name then none else some (.firmware (.unknown name catalogue.names))

structure Valid (catalogue : Catalogue φ) (specs : List NodeSpec) : Prop where
  ids : ∀ spec ∈ specs, spec.id.val ≠ 0
  distinct : (specs.map (·.id)).Nodup
  room : specs.length ≤ 1000
  firmware : ∀ spec ∈ specs, ∀ name ∈ spec.firmware, catalogue.registered name = true

variable {catalogue : Catalogue φ} {specs : List NodeSpec} {spec : NodeSpec}

theorem offence?_eq_none_iff :
    spec.offence? catalogue specs = none ↔
      spec.id.val ≠ 0 ∧ spec.id ∉ specs.map (·.id) ∧ specs.length < 1000 ∧
        ∀ name ∈ spec.firmware, catalogue.registered name = true := by
  rw [offence?]
  split
  · simp [*]
  · split
    · simp [*]
    · split
      · simp [*]
      · cases spec.firmware <;> simp_all

theorem valid_append_singleton :
    Valid catalogue (specs ++ [spec]) ↔
      Valid catalogue specs ∧ spec.offence? catalogue specs = none := by
  rw [offence?_eq_none_iff]
  constructor
  · rintro ⟨ids, distinct, room, firmware⟩
    rw [List.map_append, List.map_singleton, List.nodup_append_comm] at distinct
    obtain ⟨fresh, distinct⟩ := List.nodup_cons.1 distinct
    rw [List.length_append, List.length_singleton] at room
    simp only [List.mem_append, List.mem_singleton, or_imp, forall_and, forall_eq] at ids firmware
    exact ⟨⟨ids.1, distinct, by omega, firmware.1⟩, ids.2, fresh, room, firmware.2⟩
  · rintro ⟨⟨ids, distinct, -, firmware⟩, own, fresh, room, named⟩
    refine ⟨?_, ?_, ?_, ?_⟩
    · simpa [or_imp, forall_and] using ⟨ids, own⟩
    · rw [List.map_append, List.map_singleton, List.nodup_append_comm]
      exact List.nodup_cons.2 ⟨fresh, distinct⟩
    · rw [List.length_append, List.length_singleton]
      exact room
    · simpa only [List.mem_append, List.mem_singleton, or_imp, forall_and, forall_eq] using
        ⟨firmware, named⟩

theorem Valid.perm {specs' : List NodeSpec} (h : Valid catalogue specs) (perm : specs'.Perm specs) :
    Valid catalogue specs' where
  ids spec hs := h.ids spec (perm.mem_iff.1 hs)
  distinct := (perm.map _).nodup_iff.2 h.distinct
  room := perm.length_eq ▸ h.room
  firmware spec hs := h.firmware spec (perm.mem_iff.1 hs)

theorem Valid.sublist {specs' : List NodeSpec} (h : Valid catalogue specs)
    (part : specs'.Sublist specs) : Valid catalogue specs' where
  ids spec hs := h.ids spec (part.subset hs)
  distinct := h.distinct.sublist (part.map _)
  room := part.length_le.trans h.room
  firmware spec hs := h.firmware spec (part.subset hs)

theorem valid_or_offence (catalogue : Catalogue φ) (specs : List NodeSpec) :
    Valid catalogue specs ∨ ∃ before spec after e, specs = before ++ spec :: after ∧
      Valid catalogue before ∧ spec.offence? catalogue before = some e := by
  induction specs using List.reverseRecOn with
  | nil => exact .inl ⟨by simp, by simp, by simp, by simp⟩
  | append_singleton specs spec ih =>
    rcases ih with valid | ⟨before, x, after, e, rfl, valid, offence⟩
    · cases offence : spec.offence? catalogue specs with
      | none => exact .inl (valid_append_singleton.2 ⟨valid, offence⟩)
      | some e => exact .inr ⟨specs, spec, [], e, rfl, valid, offence⟩
    · exact .inr ⟨before, x, after ++ [spec], e, by simp, valid, offence⟩

theorem valid_iff_offence? :
    Valid catalogue specs ↔ ∀ before spec after, specs = before ++ spec :: after →
      spec.offence? catalogue before = none := by
  constructor
  · intro valid before spec after split
    have front : Valid catalogue (before ++ [spec]) := valid.sublist (by rw [split]; simp)
    exact (valid_append_singleton.1 front).2
  · intro free
    rcases valid_or_offence catalogue specs with valid | ⟨before, spec, after, e, split, -, offence⟩
    · exact valid
    · cases offence.symm.trans (free before spec after split)

end NodeSpec

def Register.ofSpecs (specs : List NodeSpec) : Register := { given := specs.map (·.id) }

theorem Register.managed_ofSpecs (specs : List NodeSpec) :
    (ofSpecs specs).managed = specs.map (·.id) := by
  simp [managed, ofSpecs]

theorem Register.refusalOf?_ofSpecs (catalogue : Catalogue φ) (specs : List NodeSpec)
    (spec : NodeSpec) :
    (ofSpecs specs).refusalOf? catalogue spec = spec.offence? catalogue specs := by
  have none_removed : (ofSpecs specs).removed = [] := rfl
  simp only [refusalOf?, refusal?, managed_ofSpecs, none_removed, List.length_map, List.not_mem_nil,
    if_false, NodeSpec.offence?]
  split
  · rfl
  · split
    · rfl
    · split <;> rfl

theorem NodeSpec.device_of_bare {catalogue : Catalogue φ} {spec : NodeSpec}
    (bare : spec.firmware = none) : spec.device catalogue = none := by
  rw [device, bare, Option.bind_none]

theorem NodeSpec.device_of_registered {catalogue : Catalogue φ} {spec : NodeSpec} {name : String}
    (named : name ∈ spec.firmware) (registered : catalogue.registered name = true) :
    ∃ firmware, catalogue.create name = .ok firmware ∧
      spec.device catalogue = some { firmware, settings := spec.settings } := by
  rw [Catalogue.registered, Std.ExtTreeMap.contains_eq_isSome_getElem?] at registered
  obtain ⟨firmware, entry⟩ := Option.isSome_iff_exists.1 registered
  refine ⟨firmware, ?_, ?_⟩
  · rw [Catalogue.create, entry]
  · rw [device, named, Option.bind_some, entry, Option.map_some]

structure Fleet.Crewed (catalogue : Catalogue φ) (specs : List NodeSpec) (f : Fleet φ) : Prop where
  records : f.Records (.ofSpecs specs)
  node : ∀ spec ∈ specs,
    f.find? spec.id = some { id := spec.id, device := spec.device catalogue }
  retired : f.retired = ∅
  lastSeen : f.lastSeen = 0

namespace Fleet.Crewed

variable {catalogue : Catalogue φ} {specs : List NodeSpec} {spec : NodeSpec} {f g : Fleet φ}

theorem empty : Crewed catalogue [] ∅ := ⟨.empty, by simp, rfl, rfl⟩

theorem unique {specs' : List NodeSpec} (perm : specs'.Perm specs) (h : Crewed catalogue specs f)
    (h' : Crewed catalogue specs' g) : g = f := by
  refine Fleet.ext (fun id => ?_) (h'.retired.trans h.retired.symm)
    (h'.lastSeen.trans h.lastSeen.symm)
  by_cases entered : ∃ spec ∈ specs, spec.id = id
  · obtain ⟨spec, hs, rfl⟩ := entered
    rw [h.node spec hs, h'.node spec (perm.mem_iff.2 hs)]
  · have unmanaged : id ∉ specs.map (·.id) := by simpa using entered
    have missing : f.find? id = none := by
      rwa [← Option.not_isSome_iff_eq_none, h.records.managed, Register.managed_ofSpecs]
    have missing' : g.find? id = none := by
      rwa [← Option.not_isSome_iff_eq_none, h'.records.managed, Register.managed_ofSpecs,
        (perm.map _).mem_iff]
    rw [missing, missing']

variable [Firmware φ]

theorem create_refused (h : Crewed catalogue specs f) {e : NodeError}
    (offence : spec.offence? catalogue specs = some e) : f.create catalogue spec = .error e := by
  have answer := h.records.create_answers catalogue spec
  rw [Register.refusalOf?_ofSpecs, offence] at answer
  exact answer.1

theorem create_granted (h : Crewed catalogue specs f)
    (free : spec.offence? catalogue specs = none) :
    ∃ g, f.create catalogue spec = .ok g ∧ Crewed catalogue (specs ++ [spec]) g := by
  have answer := h.records.create_answers catalogue spec
  rw [Register.refusalOf?_ofSpecs, free] at answer
  obtain ⟨g, created, step, gains⟩ := answer
  have grown : (Register.ofSpecs specs).append { given := [spec.id] } =
      .ofSpecs (specs ++ [spec]) := by
    simp [Register.append, Register.ofSpecs]
  have records := h.records.step step
  rw [entry, created] at records
  refine ⟨g, created, grown ▸ records, fun x hx => ?_, ?_, ?_⟩
  · rcases List.mem_append.1 hx with hx | hx
    · have fresh := (NodeSpec.offence?_eq_none_iff.1 free).2.1
      have other : x.id ≠ spec.id := fun same => fresh (same ▸ List.mem_map_of_mem hx)
      rw [gains.others x.id other, h.node x hx]
    · obtain rfl := List.mem_singleton.1 hx
      exact gains.after
  · exact gains.retired.trans h.retired
  · exact gains.lastSeen.trans h.lastSeen

theorem createAll (valid : NodeSpec.Valid catalogue specs) :
    ∃ f, Fleet.createAll catalogue specs ∅ = .ok f ∧ Crewed catalogue specs f := by
  induction specs using List.reverseRecOn with
  | nil => exact ⟨∅, rfl, empty⟩
  | append_singleton specs spec ih =>
    obtain ⟨valid, free⟩ := NodeSpec.valid_append_singleton.1 valid
    obtain ⟨f, created, crewed⟩ := ih valid
    obtain ⟨g, last, crewed⟩ := crewed.create_granted free
    refine ⟨g, ?_, crewed⟩
    rw [Fleet.createAll] at created
    rw [Fleet.createAll, List.foldlM_append, created]
    exact (bind_pure _).trans last

theorem createAll_refused {before after : List NodeSpec} {e : NodeError}
    (valid : NodeSpec.Valid catalogue before) (offence : spec.offence? catalogue before = some e) :
    Fleet.createAll catalogue (before ++ spec :: after) ∅ = .error e := by
  obtain ⟨f, created, crewed⟩ := createAll valid
  rw [Fleet.createAll] at created
  rw [Fleet.createAll, List.foldlM_append, created]
  change Fleet.createAll catalogue (spec :: after) f = _
  rw [Fleet.createAll, List.foldlM_cons, crewed.create_refused offence]
  rfl

end Fleet.Crewed

theorem Network.ofSetup_of_seed {s : NetworkSetup} {entropy entropy' : Random.Generator}
    (h : s.seed.isSome ∨ entropy' = entropy) : ofSetup s entropy' = ofSetup s entropy := by
  rcases h with seeded | rfl
  · obtain ⟨seed, hs⟩ := Option.isSome_iff_exists.1 seeded
    have same : Random.Source.ofSeed? s.seed entropy' = .ofSeed? s.seed entropy := by
      rw [hs]
      rfl
    rw [ofSetup, ofSetup, same]
  · rfl

theorem Catalogue.names_ascending (c : Catalogue φ) : c.names.Pairwise (· < ·) :=
  c.entries.ordered_keys.imp fun h => compareOfLessAndEq_eq_lt.1 h

theorem Catalogue.mem_names {c : Catalogue φ} {name : String} :
    name ∈ c.names ↔ c.registered name = true :=
  Std.ExtTreeMap.mem_keys

namespace Simulation

variable {catalogue : Catalogue φ} {s : Setup} {entropy : Random.Generator}

theorem ofSetup_of_invalid {c : ConditionError} (invalid : s.network.check = .error c) :
    ofSetup catalogue s entropy = .error (.invalid c) := by
  have refused : Network.ofSetup s.network entropy = .error c := by
    rw [← discard_eq_error, Network.discard_ofSetup, invalid]
  rw [ofSetup, refused]
  rfl

variable [Firmware φ]

theorem ofSetup_of_offence {before after : List NodeSpec} {spec : NodeSpec} {e : NodeError}
    (accepted : s.network.check = .ok ()) (split : s.nodes = before ++ spec :: after)
    (valid : NodeSpec.Valid catalogue before)
    (offence : spec.offence? catalogue before = some e) :
    ofSetup catalogue s entropy = .error (.node e) := by
  obtain ⟨network, built⟩ := discard_eq_ok.1 (accepted ▸ Network.discard_ofSetup s.network entropy)
  rw [ofSetup, built, split, Fleet.Crewed.createAll_refused valid offence]
  rfl

theorem ofSetup_of_valid (entropy : Random.Generator) (accepted : s.network.check = .ok ())
    (valid : NodeSpec.Valid catalogue s.nodes) :
    ∃ network fleet, Network.ofSetup s.network entropy = .ok network ∧
      fleet.Crewed catalogue s.nodes ∧
      ofSetup catalogue s entropy = .ok { mesh := { fleet, network } } := by
  obtain ⟨network, built⟩ := discard_eq_ok.1 (accepted ▸ Network.discard_ofSetup s.network entropy)
  obtain ⟨fleet, created, crewed⟩ := Fleet.Crewed.createAll valid
  refine ⟨network, fleet, built, crewed, ?_⟩
  rw [ofSetup, built, created]
  rfl

theorem valid_of_ofSetup {sim : Simulation φ} (h : ofSetup catalogue s entropy = .ok sim) :
    s.network.check = .ok () ∧ NodeSpec.Valid catalogue s.nodes := by
  cases accepted : s.network.check with
  | error c => cases (ofSetup_of_invalid accepted).symm.trans h
  | ok _ =>
    refine ⟨rfl, ?_⟩
    rcases NodeSpec.valid_or_offence catalogue s.nodes with
      valid | ⟨before, spec, after, e, split, valid, offence⟩
    · exact valid
    · cases (ofSetup_of_offence accepted split valid offence).symm.trans h

theorem setups_are_built_entry_by_entry (catalogue : Catalogue φ) (s : Setup)
    (entropy : Random.Generator) :
    ((∃ sim, ofSetup catalogue s entropy = .ok sim) ↔
      s.network.check = .ok () ∧ (∀ spec ∈ s.nodes, spec.id.val ≠ 0) ∧
        (s.nodes.map (·.id)).Nodup ∧ s.nodes.length ≤ 1000 ∧
        ∀ spec ∈ s.nodes, ∀ name ∈ spec.firmware, catalogue.registered name = true) ∧
    (∀ sim, ofSetup catalogue s entropy = .ok sim →
      Network.ofSetup s.network entropy = .ok sim.mesh.network ∧
      sim.clock = 0 ∧ sim.agenda = ∅ ∧ sim.mesh.fleet.retired = ∅ ∧ sim.mesh.fleet.lastSeen = 0 ∧
      sim.mesh.fleet.ids.Perm (s.nodes.map (·.id)) ∧
      (∀ spec ∈ s.nodes, ∃ n, sim.mesh.fleet.find? spec.id = some n ∧ n.id = spec.id ∧
        n.isRunning = false ∧ n.partition = 0 ∧ n.peers = [] ∧ n.outbox = [] ∧ n.metrics = {} ∧
        (spec.firmware = none → n.device = none) ∧
        ∀ name ∈ spec.firmware, ∃ firmware, catalogue.create name = .ok firmware ∧
          n.device = some { firmware, settings := spec.settings }) ∧
      ∀ nodes : List NodeSpec, nodes.Perm s.nodes → ∀ entropy',
        s.network.seed.isSome ∨ entropy' = entropy →
          ofSetup catalogue { s with nodes } entropy' = .ok sim) ∧
    (∀ e, ofSetup catalogue s entropy = .error e ↔
      (∃ c, s.network.check = .error c ∧ e = .invalid c) ∨
      s.network.check = .ok () ∧ ∃ before spec after offence, s.nodes = before ++ spec :: after ∧
        (∀ first x last, before = first ++ x :: last → x.offence? catalogue first = none) ∧
        spec.offence? catalogue before = some offence ∧ e = .node offence) ∧
    catalogue.names.Pairwise (· < ·) ∧
      ∀ name, name ∈ catalogue.names ↔ catalogue.registered name = true := by
  refine ⟨⟨?_, ?_⟩, ?_, fun e => ⟨?_, ?_⟩, catalogue.names_ascending,
    fun _ => Catalogue.mem_names⟩
  · rintro ⟨sim, h⟩
    obtain ⟨accepted, valid⟩ := valid_of_ofSetup h
    exact ⟨accepted, valid.ids, valid.distinct, valid.room, valid.firmware⟩
  · rintro ⟨accepted, ids, distinct, room, firmware⟩
    obtain ⟨network, fleet, -, -, h⟩ :=
      ofSetup_of_valid entropy accepted ⟨ids, distinct, room, firmware⟩
    exact ⟨_, h⟩
  · intro sim h
    obtain ⟨accepted, valid⟩ := valid_of_ofSetup h
    obtain ⟨network, fleet, built, crewed, h'⟩ := ofSetup_of_valid entropy accepted valid
    obtain rfl := Except.ok.inj (h'.symm.trans h)
    refine ⟨built, rfl, rfl, crewed.retired, crewed.lastSeen, ?_, fun spec hs => ?_,
      fun nodes perm entropy' seeded => ?_⟩
    · rw [← Register.managed_ofSpecs]
      exact crewed.records.ids_perm
    · exact ⟨_, crewed.node spec hs, rfl, rfl, rfl, rfl, rfl, rfl, NodeSpec.device_of_bare,
        fun name named => NodeSpec.device_of_registered named (valid.firmware spec hs name named)⟩
    · obtain ⟨network', fleet', built', crewed', h''⟩ :=
        ofSetup_of_valid (s := { s with nodes }) entropy' accepted (valid.perm perm)
      rw [Network.ofSetup_of_seed seeded, built] at built'
      obtain rfl := Except.ok.inj built'
      rw [h'', crewed.unique perm crewed']
  · intro h
    cases accepted : s.network.check with
    | error c =>
      rw [ofSetup_of_invalid accepted] at h
      exact .inl ⟨c, rfl, (Except.error.inj h).symm⟩
    | ok _ =>
      rcases NodeSpec.valid_or_offence catalogue s.nodes with
        valid | ⟨before, spec, after, offence, split, valid, found⟩
      · obtain ⟨network, fleet, -, -, h'⟩ := ofSetup_of_valid entropy accepted valid
        cases h'.symm.trans h
      · rw [ofSetup_of_offence accepted split valid found] at h
        exact .inr ⟨rfl, before, spec, after, offence, split, NodeSpec.valid_iff_offence?.1 valid,
          found, (Except.error.inj h).symm⟩
  · rintro (⟨c, invalid, rfl⟩ | ⟨accepted, before, spec, after, offence, split, free, found, rfl⟩)
    · exact ofSetup_of_invalid invalid
    · exact ofSetup_of_offence accepted split (NodeSpec.valid_iff_offence?.2 free) found

theorem setups_are_built_entry_by_entry_swapped_entries :
    let server : NodeSpec :=
      { id := ⟨2⟩, firmware := "echo-server", settings := .ofList [("note", "east")] }
    let relay : NodeSpec := { id := ⟨2⟩, firmware := "relay" }
    let s : Setup := { network := { seed := some 3 }, nodes := [server, { id := ⟨1⟩ }] }
    let swapped : Setup := { s with nodes := [{ id := ⟨1⟩ }, server] }
    let unknown : Setup := { s with nodes := [{ id := ⟨1⟩ }, relay, { id := ⟨0⟩ }] }
    let entropy := Random.Generator.ofSeed 0
    (∃ sim, ofSetup .builtins s entropy = .ok sim ∧
      ofSetup .builtins swapped (.ofSeed 9) = .ok sim ∧
      ∃ n, sim.mesh.fleet.find? ⟨2⟩ = some n ∧ n.isRunning = false ∧
        n.device = some { firmware := .echoServer {}, settings := server.settings }) ∧
    ofSetup .builtins unknown entropy = .error (.node (.firmware
      (.unknown "relay" ["echo-client", "echo-server", "simple-broadcast"]))) := by
  intro server relay s swapped unknown entropy
  obtain ⟨accepted, described, -⟩ := setups_are_built_entry_by_entry .builtins s entropy
  obtain ⟨-, -, refused, -⟩ := setups_are_built_entry_by_entry .builtins unknown entropy
  have swap : swapped.nodes.Perm s.nodes := .swap _ _ _
  have named : ∀ spec ∈ s.nodes, ∀ name ∈ spec.firmware,
      Catalogue.builtins.registered name = true := by decide +kernel
  have valid : unknown.network.check = .ok () := by decide +kernel
  refine ⟨?_, (refused _).2 (.inr ⟨valid, [{ id := ⟨1⟩ }], relay, [{ id := ⟨0⟩ }], _, rfl,
    fun first x last split => ?_, by decide +kernel, rfl⟩)⟩
  · obtain ⟨sim, built⟩ := accepted.2
      ⟨by decide +kernel, by decide, by decide, by decide, named⟩
    obtain ⟨-, -, -, -, -, -, nodes, orders⟩ := described sim built
    obtain ⟨n, found, -, stopped, -, -, -, -, -, equipped⟩ := nodes server (List.mem_cons_self ..)
    obtain ⟨firmware, created, device⟩ := equipped "echo-server" rfl
    have echo : Catalogue.builtins.create "echo-server" = .ok (.echoServer {}) := by decide +kernel
    obtain rfl := Except.ok.inj (created.symm.trans echo)
    exact ⟨sim, built, orders _ swap _ (.inl rfl), n, found, stopped, device⟩
  · obtain ⟨rfl, same⟩ | ⟨first, rfl, inner⟩ := List.cons_eq_append_iff.1 split
    · obtain ⟨rfl, -⟩ := List.cons.inj same
      rfl
    · cases first <;> cases inner

end Simulation

end MeshNet
