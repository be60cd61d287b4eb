import MeshNet.Firmware.Catalogue
import MeshNet.Proofs.Fleet.Nodewise
import MeshNet.Proofs.Reach.Peers

namespace MeshNet

inductive RosterOp (φ : Type) where
  | fleet (op : FleetOp φ)
  | execute (e : Event) (now : Time) (network : Network)
  | update (now : Time) (network : Network)

structure Register where
  given : List NodeId := []
  removed : List NodeId := []
deriving DecidableEq

namespace Register

variable {φ : Type}

def append (r s : Register) : Register := ⟨r.given ++ s.given, r.removed ++ s.removed⟩

@[simp] theorem append_empty (r : Register) : r.append {} = r := by
  simp [append]

theorem append_assoc (r s t : Register) : (r.append s).append t = r.append (s.append t) := by
  simp [append]

def managed (r : Register) : List NodeId := r.given.filter (· ∉ r.removed)

theorem mem_managed {r : Register} {id : NodeId} :
    id ∈ r.managed ↔ id ∈ r.given ∧ id ∉ r.removed := by
  simp [managed]

def refusal? (r : Register) (id : NodeId) : Option NodeError :=
  if id.val = 0 then some .invalidId
  else if id ∈ r.managed then some (.alreadyExists id)
  else if id ∈ r.removed then some (.retired id)
  else if 1000 ≤ r.managed.length then some (.capacityReached 1000)
  else none

def refusalOf? (r : Register) (catalogue : Catalogue φ) (spec : NodeSpec) : Option NodeError :=
  (r.refusal? spec.id).or (spec.firmware.bind fun name =>
    if catalogue.registered name then none else some (.firmware (.unknown name catalogue.names)))

theorem of_refusal?_eq_none {r : Register} {id : NodeId} (h : r.refusal? id = none) :
    id.val ≠ 0 ∧ id ∉ r.managed ∧ id ∉ r.removed ∧ r.managed.length < 1000 := by
  simp only [refusal?] at h
  split at h
  · cases h
  · split at h
    · cases h
    · split at h
      · cases h
      · split at h
        · cases h
        · exact ⟨‹_›, ‹_›, ‹_›, by omega⟩

end Register

namespace Fleet

variable {φ : Type}

theorem ids_ascending (f : Fleet φ) : f.ids.Pairwise fun a b => a.val < b.val :=
  f.nodes.ordered_keys.imp fun {a b} h => by rwa [NodeId.compare_def, Std.compare_eq_lt] at h

theorem mem_ids {f : Fleet φ} {id : NodeId} : id ∈ f.ids ↔ (f.find? id).isSome := by
  rw [ids, Std.ExtTreeMap.mem_keys, find?, Std.ExtTreeMap.isSome_getElem?_iff_mem]

theorem length_ids (f : Fleet φ) : f.ids.length = f.size := f.nodes.length_keys

section Operations

variable [Firmware φ]

def operate (f : Fleet φ) : RosterOp φ → Checked (Fleet φ)
  | .fleet op => f.step op
  | .execute e now network =>
    (·.2.fleet) <$> ((e.perform now).run.run { fleet := f, network } : Checked _)
  | .update now network => (·.2.fleet) <$> ({ fleet := f, network } : Mesh φ).update now

def entry (f : Fleet φ) : RosterOp φ → Register
  | .fleet (.add id) => { given := if (f.add id).isOk then [id] else [] }
  | .fleet (.create catalogue spec) =>
    { given := if (f.create catalogue spec).isOk then [spec.id] else [] }
  | .fleet (.remove id now) =>
    { removed := ((f.remove id now).toOption.bind (·.1)).toList.map fun _ => id }
  | _ => {}

def operateAll : List (RosterOp φ) → Fleet φ → Checked (Register × Fleet φ)
  | [], f => .ok ({}, f)
  | op :: ops, f => do
    let g ← f.operate op
    let (r, g) ← operateAll ops g
    return ((f.entry op).append r, g)

def Answers (f : Fleet φ) (request : FleetOp φ) (n : Node φ) (reply : Except NodeError (Fleet φ)) :
    Option NodeError → Prop
  | some e => reply = .error e ∧ f.step request = .ok f
  | none => ∃ g, reply = .ok g ∧ f.step request = .ok g ∧ f.Gains g n

theorem Answers.refused {f : Fleet φ} {request : FleetOp φ} {n : Node φ}
    {reply : Except NodeError (Fleet φ)} (hs : f.step request = .ok (reply.toOption.getD f))
    {e : NodeError} (hr : reply = .error e) :
    f.Answers request n reply (some e) := by
  subst hr
  exact ⟨rfl, hs⟩

theorem Answers.granted {f : Fleet φ} {request : FleetOp φ} {n : Node φ}
    {reply : Except NodeError (Fleet φ)} (hs : f.step request = .ok (reply.toOption.getD f))
    (hr : reply = .ok (f.put n))
    (free : f.obstacle? n.id = none) : f.Answers request n reply none := by
  subst hr
  exact ⟨_, rfl, hs, gains_put free⟩

end Operations

structure Records (f : Fleet φ) (r : Register) : Prop where
  keyed : f.Keyed
  managed : ∀ id, (f.find? id).isSome ↔ id ∈ r.managed
  retired : ∀ id, id ∈ f.retired ↔ id ∈ r.removed
  valid : ∀ id ∈ r.given, id.val ≠ 0
  once : r.given.Nodup
  known : ∀ id ∈ r.removed, id ∈ r.given
  room : r.managed.length ≤ 1000

namespace Records

variable {f g : Fleet φ} {r : Register}

theorem empty : Records (∅ : Fleet φ) {} where
  keyed := Every.empty
  managed id := by
    have hn : (∅ : Fleet φ).find? id = none := Std.ExtTreeMap.getElem?_empty
    simp [hn, Register.managed]
  retired id := by
    have hn : id ∉ (∅ : Fleet φ).retired := Std.ExtTreeSet.not_mem_empty
    simp [hn]
  valid _ h := by cases h
  once := .nil
  known _ h := by cases h
  room := Nat.zero_le _

theorem ids_perm (h : f.Records r) : f.ids.Perm r.managed := by
  refine (List.perm_ext_iff_of_nodup f.nodes.nodup_keys (h.once.filter _)).2 fun id => ?_
  exact mem_ids.trans (h.managed id)

theorem size_eq (h : f.Records r) : f.size = r.managed.length := by
  rw [← length_ids, h.ids_perm.length_eq]

theorem obstacle?_eq (h : f.Records r) (id : NodeId) : f.obstacle? id = r.refusal? id := by
  have hm : f.contains id = true ↔ id ∈ r.managed := by
    rw [contains, Std.ExtTreeMap.contains_eq_isSome_getElem?]
    exact h.managed id
  simp only [obstacle?, Register.refusal?, NodeId.Valid, Decidable.not_not, hm, h.retired,
    h.size_eq, capacity]

theorem nodewise {R : NodeId → Node φ → Node φ → Prop} (h : f.Records r) (hn : Nodewise R f g)
    (keyed : g.Keyed) : g.Records r where
  keyed := keyed
  managed id := by rw [hn.isSome_find?, h.managed]
  retired id := by rw [hn.retired, h.retired]
  valid := h.valid
  once := h.once
  known := h.known
  room := h.room

theorem gain (h : f.Records r) {n : Node φ} (hg : f.Gains g n) (free : r.refusal? n.id = none)
    (keyed : g.Keyed) : g.Records (r.append { given := [n.id] }) := by
  obtain ⟨valid, unmanaged, unused, room⟩ := Register.of_refusal?_eq_none free
  have grown : (r.append { given := [n.id] }).managed = r.managed ++ [n.id] := by
    simp [Register.managed, Register.append, unused]
  refine ⟨keyed, fun id => ?_, fun id => ?_, fun id hi => ?_, ?_, fun id hi => ?_, ?_⟩
  · rw [grown, List.mem_append, List.mem_singleton, ← h.managed]
    by_cases he : id = n.id
    · simp [he, hg.after]
    · simp [he, hg.others id he]
  · rw [hg.retired, h.retired, Register.append, List.append_nil]
  · rcases List.mem_append.1 hi with hi | hi
    · exact h.valid id hi
    · rw [List.mem_singleton.1 hi]
      exact valid
  · refine List.nodup_append.2 ⟨h.once, List.nodup_singleton _, fun a ha b hb => ?_⟩
    rw [List.mem_singleton.1 hb]
    rintro rfl
    exact unmanaged (Register.mem_managed.2 ⟨ha, unused⟩)
  · rw [Register.append, List.append_nil] at hi
    exact List.mem_append_left _ (h.known id hi)
  · rw [grown, List.length_append, List.length_singleton]
    exact room

theorem lose (h : f.Records r) {id : NodeId} (hl : f.Loses g id) (keyed : g.Keyed) :
    g.Records (r.append { removed := [id] }) := by
  have given : (r.append { removed := [id] }).given = r.given := List.append_nil _
  have shrunk (i : NodeId) :
      i ∈ (r.append { removed := [id] }).managed ↔ i ≠ id ∧ i ∈ r.managed := by
    rw [Register.mem_managed, Register.mem_managed, given, Register.append, List.mem_append,
      List.mem_singleton, not_or]
    tauto
  refine ⟨keyed, fun i => ?_, fun i => ?_, ?_, ?_, fun i hi => ?_, ?_⟩
  · rw [shrunk, ← h.managed]
    by_cases he : i = id
    · simp [he, hl.after]
    · simp [he, hl.others i he]
  · rw [hl.retired, h.retired, Register.append, List.mem_append, List.mem_singleton, or_comm]
  · rw [given]
    exact h.valid
  · rw [given]
    exact h.once
  · rw [given]
    rcases List.mem_append.1 hi with hi | hi
    · exact h.known i hi
    · rw [List.mem_singleton.1 hi]
      exact (Register.mem_managed.1 ((h.managed id).1 hl.before)).1
  · refine Nat.le_trans (List.Subperm.length_le (List.subperm_of_subset ?_ fun i hi => ?_)) h.room
    · rw [Register.managed, given]
      exact h.once.filter _
    · exact ((shrunk i).1 hi).2

variable [Firmware φ]

theorem add_answers (h : f.Records r) (id : NodeId) :
    f.Answers (.add id) { id } (f.add id) (r.refusal? id) := by
  rw [← h.obstacle?_eq]
  cases hr : f.obstacle? id with
  | some e => exact .refused rfl (by rw [add, hr])
  | none => exact .granted rfl (by rw [add, hr]) hr

theorem create_answers (h : f.Records r) (catalogue : Catalogue φ) (spec : NodeSpec) :
    f.Answers (.create catalogue spec) { id := spec.id, device := spec.device catalogue }
      (f.create catalogue spec) (r.refusalOf? catalogue spec) := by
  rw [Register.refusalOf?, ← h.obstacle?_eq]
  cases hr : f.obstacle? spec.id with
  | some e => exact .refused rfl (by rw [create, hr])
  | none =>
    rw [Option.none_or]
    cases hf : spec.firmware with
    | none =>
      have bare : spec.device catalogue = none := by rw [NodeSpec.device, hf, Option.bind_none]
      exact .granted rfl (by rw [create, hr, hf, bare]) hr
    | some name =>
      rw [Option.bind_some, Catalogue.registered, Std.ExtTreeMap.contains_eq_isSome_getElem?]
      cases he : catalogue.entries[name]? with
      | none => exact .refused rfl (by simp only [create, hr, hf, Catalogue.create, he])
      | some firmware =>
        have equipped : spec.device catalogue = some { firmware, settings := spec.settings } := by
          rw [NodeSpec.device, hf, Option.bind_some, he, Option.map_some]
        exact .granted rfl (by simp only [create, hr, hf, Catalogue.create, he, equipped]) hr

theorem of_answers (h : f.Records r) {request : FleetOp φ} {n : Node φ}
    {reply : Except NodeError (Fleet φ)} {refusal? : Option NodeError}
    (answer : f.Answers request n reply refusal?)
    (free : refusal? = none → r.refusal? n.id = none) (hs : f.step request = .ok g) :
    g.Records (r.append { given := if reply.isOk then [n.id] else [] }) := by
  cases refusal? with
  | some e =>
    obtain ⟨rfl, same⟩ := answer
    obtain rfl := Except.ok.inj (same.symm.trans hs)
    exact (Register.append_empty r).symm ▸ h
  | none =>
    obtain ⟨g', rfl, granted, gains⟩ := answer
    obtain rfl := Except.ok.inj (granted.symm.trans hs)
    exact h.gain gains (free rfl) (h.keyed.step hs)

theorem step (h : f.Records r) {op : FleetOp φ} (hs : f.step op = .ok g) :
    g.Records (r.append (f.entry (.fleet op))) := by
  cases op with
  | add id => exact h.of_answers (h.add_answers id) (fun free => free) hs
  | create catalogue spec =>
    exact h.of_answers (h.create_answers catalogue spec)
      (fun free => (Option.or_eq_none_iff.1 free).1) hs
  | remove id now =>
    obtain ⟨⟨removed, g'⟩, hr, rfl⟩ := Checked.map_eq_ok.1 hs
    have keyed := h.keyed.remove hr
    rw [entry, hr]
    rcases remove_cases hr with ⟨rfl, -, rfl⟩ | ⟨found, loses⟩
    · exact (Register.append_empty r).symm ▸
        ⟨keyed, h.managed, h.retired, h.valid, h.once, h.known, h.room⟩
    · obtain ⟨n, rfl⟩ := Option.isSome_iff_exists.1 found
      exact h.lose loses keyed
  | startAll now | stopAll now | shutdown | call id op | adjustTime id now offset =>
    exact (Register.append_empty r).symm ▸
      h.nodewise (FleetOp.step_nodewise hs rfl) (h.keyed.step hs)

theorem operate (h : f.Records r) {op : RosterOp φ} (ho : f.operate op = .ok g) :
    g.Records (r.append (f.entry op)) := by
  cases op with
  | fleet op => exact h.step ho
  | execute e now network =>
    obtain ⟨⟨verdict, mesh⟩, hp, rfl⟩ := Checked.map_eq_ok.1 ho
    rw [show f.entry (.execute e now network) = {} from rfl, Register.append_empty]
    rcases Event.eq_or_effect_of_perform hp with rfl | he
    · exact h
    · exact h.nodewise (Event.effect_nodewise he) (Keyed.effect h.keyed he)
  | update now network =>
    obtain ⟨⟨report, mesh⟩, hu, rfl⟩ := Checked.map_eq_ok.1 ho
    rw [show f.entry (.update now network) = {} from rfl, Register.append_empty]
    exact h.nodewise (Mesh.update_nodewise hu) (Mesh.update_peers hu h.keyed).1

theorem operateAll (h : f.Records r) {ops : List (RosterOp φ)} {s : Register}
    (ho : operateAll ops f = .ok (s, g)) : g.Records (r.append s) := by
  induction ops generalizing f r s with
  | nil =>
    cases ho
    exact (Register.append_empty r).symm ▸ h
  | cons op ops ih =>
    obtain ⟨f', first, ho⟩ := Checked.bind_eq_ok.1 ho
    obtain ⟨⟨s', g'⟩, rest, ho⟩ := Checked.bind_eq_ok.1 ho
    cases ho
    rw [← Register.append_assoc]
    exact ih (h.operate first) rest

end Records

theorem ids_are_given_once [Firmware φ] {ops : List (RosterOp φ)} {r : Register} {f : Fleet φ}
    (h : operateAll ops ∅ = .ok (r, f)) :
    (∀ id n, f.find? id = some n → n.id = id ∧ id.val ≠ 0 ∧ id ∉ f.retired) ∧
      f.ids.Pairwise (fun a b => a.val < b.val) ∧ f.ids.Perm r.managed ∧
      f.size = f.ids.length ∧ f.size ≤ 1000 ∧
      (∀ id, id ∈ f.retired ↔ id ∈ r.removed) ∧ r.given.Nodup ∧ r.removed ⊆ r.given ∧
      (∀ id, f.Answers (.add id) { id } (f.add id) (r.refusal? id)) ∧
      ∀ (catalogue : Catalogue φ) (spec : NodeSpec),
        f.Answers (.create catalogue spec) { id := spec.id, device := spec.device catalogue }
          (f.create catalogue spec) (r.refusalOf? catalogue spec) := by
  have records : f.Records r := Records.empty.operateAll h
  refine ⟨fun id n hn => ?_, f.ids_ascending, records.ids_perm, f.length_ids.symm, ?_,
    records.retired, records.once, records.known, records.add_answers, records.create_answers⟩
  · have managed := (records.managed id).1 (Option.isSome_iff_exists.2 ⟨n, hn⟩)
    obtain ⟨given, unused⟩ := Register.mem_managed.1 managed
    exact ⟨records.keyed id n hn, records.valid id given,
      fun hi => unused ((records.retired id).1 hi)⟩
  · rw [records.size_eq]
    exact records.room

theorem ids_are_given_once_retired_id :
    let network : Network := .seeded 1
    let ops : List (RosterOp Builtin) :=
      [.fleet (.add ⟨3⟩), .fleet (.create .builtins { id := ⟨1⟩, firmware := "echo-server" }),
        .fleet (.add ⟨0⟩), .fleet (.create .builtins { id := ⟨2⟩, firmware := "no such firmware" }),
        .fleet (.startAll 1), .execute (.crash ⟨3⟩) 2 network, .update 3 network,
        .fleet (.remove ⟨3⟩ 4), .fleet (.remove ⟨3⟩ 5), .fleet (.add ⟨3⟩), .fleet (.add ⟨2⟩),
        .fleet (.create .builtins { id := ⟨1⟩ }), .fleet .shutdown]
    let r : Register := ⟨[⟨3⟩, ⟨1⟩, ⟨2⟩], [⟨3⟩]⟩
    ∃ f, operateAll ops ∅ = .ok (r, f) ∧ f.ids.Perm [⟨1⟩, ⟨2⟩] ∧
      f.add ⟨3⟩ = .error (.retired ⟨3⟩) ∧ ∃ g, f.add ⟨4⟩ = .ok g ∧ f.Gains g { id := ⟨4⟩ } := by
  intro network ops r
  have register : (·.1) <$> operateAll ops ∅ = .ok r := by
    decide +kernel
  obtain ⟨⟨r', f⟩, h, hr⟩ := Checked.map_eq_ok.1 register
  obtain rfl : r' = r := hr
  obtain ⟨-, -, managed, -, -, -, -, -, answers, -⟩ := ids_are_given_once h
  obtain ⟨g, reply, -, gains⟩ := answers ⟨4⟩
  exact ⟨f, h, managed, (answers ⟨3⟩).1, g, reply, gains⟩

end Fleet

end MeshNet
