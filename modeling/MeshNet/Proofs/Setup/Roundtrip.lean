import MeshNet.Proofs.Toml.Agreement
import MeshNet.Setup.Text

namespace MeshNet.Setup

open Toml (Value Table Reads lookup_of_mem lookup_eq_none_iff)

theorem reads_distribution (d : Distribution) : Reads distribution? (.text d.name) d :=
  .plain d.ofName?_name rfl

theorem reads_latency (m : LatencyModel) : Reads latency? (ofLatency m) m := by
  have distinct : ["min", "max", "distribution"].Nodup := by decide
  refine .table distinct (by simp [ofWord, Value.agrees]) fun w holds => ?_
  have low : w.maybe 0 "min" Value.word32? 10 = some m.min := holds.maybe rfl (.word32 m.min)
  have high : w.maybe 1 "max" Value.word32? 50 = some m.max := holds.maybe rfl (.word32 m.max)
  have shape : w.maybe 2 "distribution" distribution? .normal = some m.distribution :=
    holds.maybe rfl (reads_distribution m.distribution)
  rw [latency?, holds.guard_bind]
  simp only [low, high, shape]
  rfl

theorem reads_loss (m : LossModel) : Reads loss? (ofLoss m) m := by
  have distinct : ["probability", "burst_mode", "burst_length"].Nodup := by decide
  refine .table distinct (by simp [ofWord, Value.agrees]) fun w holds => ?_
  have probability : w.maybe 0 "probability" Value.float? 0.0 = some m.probability :=
    holds.maybe rfl (.float m.probability)
  have mode : w.maybe 1 "burst_mode" Value.flag? false = some m.burstMode :=
    holds.maybe rfl (.flag m.burstMode)
  have length : w.maybe 2 "burst_length" Value.word32? 1 = some m.burstLength :=
    holds.maybe rfl (.word32 m.burstLength)
  rw [loss?, holds.guard_bind]
  simp only [probability, mode, length]
  rfl

theorem reads_id (id : NodeId) : Reads id? (ofWord id.val) id :=
  (Reads.word32 id.val).map NodeId.mk

theorem reads_override {μ : Type} {model? : Value → Option μ} {ofModel : μ → Value}
    (reads : ∀ m, Reads model? (ofModel m) m) (o : Override μ) :
    Reads (override? model?) (ofOverride ofModel o) o := by
  have distinct : ["from", "to", "config"].Nodup := by decide
  refine .table distinct (by simp [ofWord, Value.agrees, (reads _).self]) fun w holds => ?_
  have source : w.need 0 "from" id? = some o.link.source := holds.need rfl (reads_id o.link.source)
  have target : w.need 1 "to" id? = some o.link.target := holds.need rfl (reads_id o.link.target)
  have config : w.need 2 "config" model? = some o.model := holds.need rfl (reads o.model)
  simp only [override?, source, target, config]
  rfl

theorem reads_overrides {μ : Type} {model? : Value → Option μ} {ofModel : μ → Value}
    (reads : ∀ m, Reads model? (ofModel m) m) (os : List (Override μ)) :
    Reads (list? (override? model?)) (.array (os.map (ofOverride ofModel))) os :=
  .list fun o _ => reads_override reads o

theorem lookup_entry?_append (key : String) (v : Option Value) (es : Table) (name : String) :
    ( entry? key v ++ es).lookup name =
      if name = key then v.or (es.lookup name) else es.lookup name := by
  cases v with
  | none => simp [ entry?]
  | some v =>
    rw [ entry?, Option.map_some, Option.toList_some, List.singleton_append, List.lookup_cons]
    split <;> simp_all

theorem nodup_keys_optional {key : String} {v : Option Value} (before : Table) {after : Table}
    (distinct : ((before ++ (key, v.getD default) :: after).map (·.1)).Nodup) :
    ((before ++ entry? key v ++ after).map (·.1)).Nodup := by
  refine distinct.sublist (List.Sublist.map _ ?_)
  rw [List.append_assoc]
  refine .append_left ?_ _
  cases v with
  | none => exact List.sublist_cons_self ..
  | some v => exact .refl _

theorem agrees_optional {α : Type} {read : Value → Option α} {write : α → Value} (key : String)
    (reads : ∀ a, Reads read (write a) a) (a? : Option α) :
    ∀ e ∈ entry? key (a?.map write), e.2.agrees e.2 = true := by
  cases a? with
  | none => simp [ entry?]
  | some a => simpa [ entry?] using (reads a).self

theorem reads_network (s : NetworkSetup) : Reads network? (ofNetwork s) s := by
  have distinct : ["seed", "default_latency", "default_packet_loss", "latency_overrides",
      "packet_loss_overrides"].Nodup := by decide
  refine .table (nodup_keys_optional [] distinct) ?_ fun w holds => ?_
  · have seed := agrees_optional "seed" Reads.word64 s.seed
    simpa [or_imp, forall_and, (reads_latency _).self, (reads_loss _).self,
      (reads_overrides reads_latency _).self, (reads_overrides reads_loss _).self] using seed
  have seed : w.maybe 0 "seed" (fun w => some <$> w.word64?) none = some s.seed := by
    refine holds.maybe_option ?_ fun n _ => .word64 n
    rw [lookup_entry?_append, if_pos rfl]
    exact Option.or_none
  have later (name : String) (other : name ≠ "seed") (es : Table) :
      ( entry? "seed" (s.seed.map fun n => .integer n.toNat) ++ es).lookup name =
        es.lookup name := by
    rw [lookup_entry?_append, if_neg other]
  have latency : w.maybe 1 "default_latency" latency? {} = some s.defaultLatency :=
    holds.maybe (later _ (by decide) _) (reads_latency s.defaultLatency)
  have loss : w.maybe 2 "default_packet_loss" loss? {} = some s.defaultLoss :=
    holds.maybe (later _ (by decide) _) (reads_loss s.defaultLoss)
  have latencies : w.maybe 3 "latency_overrides" (list? (override? latency?)) [] =
      some s.latencyOverrides :=
    holds.maybe (later _ (by decide) _) (reads_overrides reads_latency s.latencyOverrides)
  have losses : w.maybe 4 "packet_loss_overrides" (list? (override? loss?)) [] =
      some s.lossOverrides :=
    holds.maybe (later _ (by decide) _) (reads_overrides reads_loss s.lossOverrides)
  rw [network?, holds.guard_bind]
  simp only [seed, latency, loss, latencies, losses]
  rfl

theorem mapM_eq_some {α β : Type} {f : α → Option β} {g : α → β} {as : List α}
    (h : ∀ a ∈ as, f a = some (g a)) : as.mapM f = some (as.map g) := by
  induction as with
  | nil => rfl
  | cons a as ih =>
    rw [List.forall_mem_cons] at h
    rw [List.mapM_cons, h.1, ih h.2]
    rfl

theorem nodup_keys_ofSettings (s : Settings) :
    ((s.toList.map fun e => (e.1, Value.text e.2)).map (·.1)).Nodup := by
  have keys : s.toList.map (·.1) = s.keys := Std.ExtTreeMap.map_fst_toList_eq_keys
  rw [List.map_map]
  exact keys ▸ s.nodup_keys

theorem lookup_toList (s : Settings) (k : String) : s.toList.lookup k = s[k]? := by
  have distinct : (s.toList.map (·.1)).Nodup :=
    Std.ExtTreeMap.map_fst_toList_eq_keys (t := s) ▸ s.nodup_keys
  cases h : s[k]? with
  | some x => exact lookup_of_mem distinct (Std.ExtTreeMap.mem_toList_iff_getElem?_eq_some.2 h)
  | none =>
    refine lookup_eq_none_iff.2 fun mem => ?_
    obtain ⟨e, he, rfl⟩ := List.mem_map.1 mem
    cases h.symm.trans (Std.ExtTreeMap.mem_toList_iff_getElem?_eq_some.1 he)

theorem ofList_eq_of_lookup {s : Settings} {es : List (String × String)}
    (distinct : (es.map (·.1)).Nodup) (h : ∀ k, es.lookup k = s[k]?) :
    Std.ExtTreeMap.ofList es = s := by
  refine Std.ExtTreeMap.ext_getElem? fun k => ?_
  rw [← h]
  cases hk : es.lookup k with
  | some x =>
    have apart : es.Pairwise fun a b => ¬ compare a.1 b.1 = .eq := by
      rw [← List.pairwise_map (f := Prod.fst) (R := fun a b => ¬ compare a b = .eq)]
      exact distinct.imp fun ne he => ne (Std.compare_eq_iff_eq.1 he)
    exact Std.ExtTreeMap.getElem?_ofList_of_mem Std.ReflCmp.compare_self apart
      (Toml.mem_of_lookup hk)
  | none =>
    refine Std.ExtTreeMap.getElem?_ofList_of_contains_eq_false ?_
    simpa using lookup_eq_none_iff.1 hk

theorem reads_settings (s : Settings) : Reads settings? (ofSettings s) s := by
  refine .table (nodup_keys_ofSettings s) (fun e he => ?_) fun w holds => ?_
  · obtain ⟨x, -, rfl⟩ := List.mem_map.1 he
    exact (Reads.text x.2).self
  obtain ⟨fs, rfl, unique, rel⟩ := holds.exists_table
  have same (k : String) : fs.lookup k = s[k]?.map .text := by
    have agree := rel k
    rw [Toml.lookup_map, lookup_toList] at agree
    exact Value.eq_of_rel (fun _ => rfl) agree
  have texts : fs.mapM (fun e => return (e.1, ← e.2.text?)) =
      some (fs.map fun e => (e.1, (e.2.text?).getD "")) := by
    refine mapM_eq_some fun e he => ?_
    have found := (lookup_of_mem unique he).symm.trans (same e.1)
    obtain ⟨x, -, hx⟩ := Option.map_eq_some_iff.1 found.symm
    rw [← hx]
    rfl
  have settings : Std.ExtTreeMap.ofList (fs.map fun e => (e.1, (e.2.text?).getD "")) = s := by
    refine ofList_eq_of_lookup (by rwa [List.map_map]) fun k => ?_
    rw [Toml.lookup_map (fun v : Value => v.text?.getD ""), same, Option.map_map]
    exact Option.map_id'
  change (fs.mapM fun e => return (e.1, ← e.2.text?)) >>= (fun es => some (.ofList es)) = some s
  rw [texts]
  exact congrArg some settings

theorem reads_node (n : NodeSpec) : Reads node? (ofNode n) n := by
  have distinct : ["id", "firmware", "firmware_config"].Nodup := by decide
  refine .table (nodup_keys_optional [("id", ofWord n.id.val)] distinct) ?_ fun w holds => ?_
  · have firmware := agrees_optional "firmware" Reads.text n.firmware
    simpa [or_imp, forall_and, (reads_id _).self, (reads_settings _).self] using firmware
  have id : w.need 0 "id" id? = some n.id := holds.need rfl (reads_id n.id)
  have firmware : w.maybe 1 "firmware" (fun w => some <$> w.text?) none = some n.firmware := by
    refine holds.maybe_option ?_ fun name _ => .text name
    change ( entry? "firmware" (n.firmware.map .text) ++ _).lookup "firmware" = _
    rw [lookup_entry?_append, if_pos rfl]
    exact Option.or_none
  have settings : w.maybe 2 "firmware_config" settings? ∅ = some n.settings := by
    refine holds.maybe ?_ (reads_settings n.settings)
    change ( entry? "firmware" (n.firmware.map .text) ++ _).lookup "firmware_config" = _
    rw [lookup_entry?_append, if_neg (by decide)]
    rfl
  simp only [node?, id, firmware, settings]
  rfl

theorem reads_setup {s : Setup} {t : Table} (encoded : encode s = some t) :
    Reads (fun v => v.entries? >>= decode) (.table t) s := by
  rw [encode] at encoded
  split at encoded
  · cases encoded
    have distinct : ["network", "node"].Nodup := by decide
    have reads_nodes : Reads (list? node?) (.array (s.nodes.map ofNode)) s.nodes :=
      .list fun n _ => reads_node n
    refine .table distinct (by simp [(reads_network _).self, reads_nodes.self]) fun w holds => ?_
    have network : w.maybe 0 "network" network? {} = some s.network :=
      holds.maybe rfl (reads_network s.network)
    have nodes : w.maybe 1 "node" (list? node?) [] = some s.nodes := holds.maybe rfl reads_nodes
    obtain ⟨fs, rfl, -⟩ := holds.exists_table
    change decode fs = some s
    simp only [decode, network, nodes]
    rfl
  · cases encoded

theorem document?_of_print {s : Setup} {text : String} (written : s.print = .ok (some text)) :
    ∃ t, encode s = some t ∧ Toml.Printer.document? t = some text := by
  rw [print] at written
  split at written
  · cases written
  · next t encoded =>
    refine ⟨t, encoded, ?_⟩
    cases hd : Toml.Printer.document? t with
    | none =>
      rw [hd] at written
      cases written
    | some document =>
      rw [hd] at written
      cases written
      rfl

theorem written_setups_are_read_again (s : Setup) :
    (∀ t, encode s = some t → decode t = some s ∧
      ∀ t', (Value.table t).agrees (.table t') = true → decode t' = some s) ∧
    ∀ text, s.network.check = .ok () → s.print = .ok (some text) →
      (∀ t, encode s = some t → Toml.ReadsBack t) → parse text = .ok s := by
  refine ⟨fun t encoded => ?_, fun text valid written faithful => ?_⟩
  · have reads := reads_setup encoded
    exact ⟨reads.of_agrees _ reads.self, fun t' => reads.of_agrees (.table t')⟩
  · obtain ⟨t, encoded, document⟩ := document?_of_print written
    obtain ⟨t', read, agree⟩ := faithful t encoded text document
    have decoded : (Toml.parse? text).bind decode = some s := by
      rw [read]
      exact (reads_setup encoded).of_agrees (.table t') agree
    simp only [parse, decoded, valid]

theorem written_setups_are_read_again_repeated_overrides :
    let l : Link := ⟨⟨1⟩, ⟨2⟩⟩
    let s : Setup := {
      network := {
        seed := some 7
        latencyOverrides := [⟨l, .fixed 5⟩, ⟨l, { min := 6, max := 9, distribution := .uniform }⟩]
        lossOverrides := [⟨l.reverse, { probability := 0.25 }⟩,
          ⟨l.reverse, { burstMode := true, burstLength := 3 }⟩] }
      nodes := [{ id := ⟨2⟩, firmware := "beacon", settings := .ofList [("note", "east")] },
        { id := ⟨1⟩ }, { id := ⟨3⟩, firmware := "echo-server" }] }
    let text :=
      "[network]\nseed = 7\n\n" ++
      "[network.default_latency]\nmin = 10\nmax = 50\ndistribution = \"normal\"\n\n" ++
      "[network.default_packet_loss]\nprobability = 0.0\nburst_mode = false\n" ++
      "burst_length = 1\n\n[[network.latency_overrides]]\nfrom = 1\nto = 2\n\n" ++
      "[network.latency_overrides.config]\nmin = 5\nmax = 5\n" ++
      "distribution = \"uniform\"\n\n[[network.latency_overrides]]\nfrom = 1\nto = 2\n\n" ++
      "[network.latency_overrides.config]\nmin = 6\nmax = 9\n" ++
      "distribution = \"uniform\"\n\n[[network.packet_loss_overrides]]\nfrom = 2\n" ++
      "to = 1\n\n[network.packet_loss_overrides.config]\nprobability = 0.25\n" ++
      "burst_mode = false\nburst_length = 1\n\n[[network.packet_loss_overrides]]\n" ++
      "from = 2\nto = 1\n\n[network.packet_loss_overrides.config]\nprobability = 0.0\n" ++
      "burst_mode = true\nburst_length = 3\n\n[[node]]\nid = 2\nfirmware = \"beacon\"\n\n" ++
      "[node.firmware_config]\nnote = \"east\"\n\n[[node]]\nid = 1\n\n" ++
      "[node.firmware_config]\n\n[[node]]\nid = 3\nfirmware = \"echo-server\"\n\n" ++
      "[node.firmware_config]\n"
    (∃ t, encode s = some t ∧ decode t = some s) ∧
    s.print = .ok (some text) ∧ parse text = .ok s := by
  intro l s text
  have valid : s.network.check = .ok () := by decide +kernel
  have written : s.print = .ok (some text) := by decide +kernel
  have reread : ((encode s).bind fun t => (Toml.parse? text).map fun t' =>
      (Value.table t).agrees (.table t')) = some true := by
    -- The characters of a long text are slow to find, so they are found piece by piece.
    simp only [Toml.parse?, text, String.toList_append]
    decide +kernel
  obtain ⟨described, restored⟩ := written_setups_are_read_again s
  obtain ⟨t₀, encoded₀, document₀⟩ := document?_of_print written
  refine ⟨⟨t₀, encoded₀, (described t₀ encoded₀).1⟩, written,
    restored text valid written fun t encoded shown document => ?_⟩
  obtain rfl := Option.some.inj (encoded₀.symm.trans encoded)
  obtain rfl := Option.some.inj (document.symm.trans document₀)
  rwa [encoded, Option.bind_some, Option.map_eq_some_iff] at reread

end MeshNet.Setup
