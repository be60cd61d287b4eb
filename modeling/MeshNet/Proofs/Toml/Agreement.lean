import Mathlib.Data.List.Perm.Subperm
import MeshNet.Toml.Document
import MeshNet.Toml.Field
import MeshNet.Toml.Printer

namespace MeshNet.Toml

mutual

def Value.agrees (v w : Value) : Bool :=
  match v, w with
  | .text s, .text t => s = t
  | .integer n, .integer m => n = m
  | .float x, .float y => x = y
  | .boolean b, .boolean c => b = c
  | .dateTime s, .dateTime t => s = t
  | .array vs, .array ws => itemsAgree vs ws
  | .table es, .table fs => es.length = fs.length && entriesAgree es fs
  | _, _ => false

def itemsAgree : List Value → List Value → Bool
  | [], [] => true
  | v :: vs, w :: ws => v.agrees w && itemsAgree vs ws
  | _, _ => false

def entriesAgree : Table → Table → Bool
  | [], _ => true
  | (k, v) :: es, fs => (fs.lookup k).any (v.agrees ·) && entriesAgree es fs

end

/-- The document of `t` is read as a table that agrees with `t`. -/
def ReadsBack (t : Table) : Prop :=
  ∀ text, Printer.document? t = some text →
    ∃ t', parse? text = some t' ∧ (Value.table t).agrees (.table t') = true

def Value.isPlain : Value → Bool
  | .array _ | .table _ => false
  | .text _ | .integer _ | .float _ | .boolean _ | .dateTime _ => true

theorem Value.eq_of_agrees {v w : Value} (plain : v.isPlain = true) (h : v.agrees w = true) :
    w = v := by
  cases v with
  | array vs | table es => cases plain
  | text s | integer n | float x | boolean b | dateTime s =>
    cases w with
    | text _ | integer _ | float _ | boolean _ | dateTime _ =>
      first
      | cases h
      | exact congrArg _ (of_decide_eq_true h).symm
    | array _ | table _ => cases h

theorem Value.agrees_self {v : Value} (plain : v.isPlain = true) : v.agrees v = true := by
  cases v with
  | array vs | table es => cases plain
  | text s | integer n | float x | boolean b | dateTime s => simp [agrees]

theorem entriesAgree_iff {es fs : Table} :
    entriesAgree es fs = true ↔
      ∀ e ∈ es, ∃ w, fs.lookup e.1 = some w ∧ e.2.agrees w = true := by
  induction es with
  | nil => simp [entriesAgree]
  | cons e es ih =>
    rw [entriesAgree, Bool.and_eq_true, ih, Option.any_eq_true, List.forall_mem_cons]

theorem lookup_of_mem {β : Type} {es : List (String × β)} (distinct : (es.map (·.1)).Nodup)
    {e : String × β} (h : e ∈ es) : es.lookup e.1 = some e.2 := by
  induction es with
  | nil => cases h
  | cons f es ih =>
    rw [List.map_cons, List.nodup_cons] at distinct
    rcases List.mem_cons.1 h with rfl | h
    · exact List.lookup_cons_self
    · have other : (e.1 == f.1) = false := by
        rw [beq_eq_false_iff_ne]
        intro same
        exact distinct.1 (same ▸ List.mem_map_of_mem h)
      rw [List.lookup_cons, other]
      exact ih distinct.2 h

theorem lookup_eq_none_iff {β : Type} {es : List (String × β)} {k : String} :
    es.lookup k = none ↔ k ∉ es.map (·.1) := by
  rw [List.lookup_eq_none_iff]
  simp only [bne_iff_ne, List.mem_map, not_exists, not_and]
  exact forall₂_congr fun e _ => ne_comm

theorem mem_of_lookup {β : Type} {es : List (String × β)} {k : String} {b : β}
    (h : es.lookup k = some b) : (k, b) ∈ es := by
  obtain ⟨before, after, rfl, -⟩ := List.lookup_eq_some_iff.1 h
  simp

theorem lookup_map {β γ : Type} (f : β → γ) (es : List (String × β)) (k : String) :
    (es.map fun e => (e.1, f e.2)).lookup k = (es.lookup k).map f := by
  induction es with
  | nil => rfl
  | cons e es ih =>
    rw [List.map_cons, List.lookup_cons, List.lookup_cons, ih]
    split <;> rfl

structure Value.Holds (w : Value) (es : Table) : Prop where
  exists_table : ∃ fs, w = .table fs ∧ (fs.map (·.1)).Nodup ∧
    ∀ k, Option.Rel (fun v w => v.agrees w = true) (es.lookup k) (fs.lookup k)

theorem Value.holds_of_agrees {es : Table} {w : Value} (h : (Value.table es).agrees w = true)
    (distinct : (es.map (·.1)).Nodup) : w.Holds es := by
  cases w with
  | table fs =>
    rw [agrees, Bool.and_eq_true, decide_eq_true_eq, entriesAgree_iff] at h
    obtain ⟨length, found⟩ := h
    have known : es.map (·.1) ⊆ fs.map (·.1) := by
      intro k hk
      obtain ⟨e, he, rfl⟩ := List.mem_map.1 hk
      obtain ⟨w, hw, -⟩ := found e he
      exact List.mem_map.2 ⟨_, mem_of_lookup hw, rfl⟩
    -- As many keys on both sides, so there is no key besides those of `es`.
    have keys : (es.map (·.1)).Perm (fs.map (·.1)) :=
      (List.subperm_of_subset distinct known).perm_of_length_le (by simp [length])
    refine ⟨fs, rfl, keys.nodup_iff.1 distinct, fun k => ?_⟩
    cases hk : es.lookup k with
    | none =>
      have missing : fs.lookup k = none := by
        rw [lookup_eq_none_iff] at hk ⊢
        rwa [← keys.mem_iff]
      rw [missing]
      exact .none
    | some v =>
      obtain ⟨w, hw, agree⟩ := found _ (mem_of_lookup hk)
      rw [hw]
      exact .some agree
  | text s | integer n | float x | boolean b | dateTime s | array vs => cases h

theorem Value.eq_of_rel {α : Type} {write : α → Value} (plain : ∀ a, (write a).isPlain = true)
    {a? : Option α} {w? : Option Value}
    (h : Option.Rel (fun v w => v.agrees w = true) (a?.map write) w?) : w? = a?.map write := by
  cases a? with
  | none =>
    rw [Option.map_none] at h ⊢
    cases h
    rfl
  | some a =>
    rw [Option.map_some] at h ⊢
    cases h with
    | some agree => rw [eq_of_agrees (plain a) agree]

theorem Value.agrees_table {es : Table} (distinct : (es.map (·.1)).Nodup)
    (h : ∀ e ∈ es, e.2.agrees e.2 = true) : (Value.table es).agrees (.table es) = true := by
  rw [agrees, Bool.and_eq_true, entriesAgree_iff]
  exact ⟨by simp, fun e he => ⟨e.2, lookup_of_mem distinct he, h e he⟩⟩

theorem Value.agrees_array {vs : List Value} (h : ∀ v ∈ vs, v.agrees v = true) :
    (Value.array vs).agrees (.array vs) = true := by
  rw [agrees]
  induction vs with
  | nil => rfl
  | cons v vs ih =>
    rw [List.forall_mem_cons] at h
    rw [itemsAgree, h.1, ih h.2]
    rfl

structure Reads {α : Type} (read : Value → Option α) (v : Value) (a : α) : Prop where
  self : v.agrees v = true
  of_agrees : ∀ w, v.agrees w = true → read w = some a

namespace Reads

theorem plain {α : Type} {read : Value → Option α} {v : Value} {a : α}
    (h : read v = some a) (plain : v.isPlain = true) : Reads read v a := by
  refine ⟨Value.agrees_self plain, fun w hw => ?_⟩
  rw [Value.eq_of_agrees plain hw, h]

theorem text (s : String) : Reads Value.text? (.text s) s := plain rfl rfl

theorem float (x : Float) : Reads Value.float? (.float x) x := plain rfl rfl

theorem flag (b : Bool) : Reads Value.flag? (.boolean b) b := plain rfl rfl

theorem word32 (n : UInt32) : Reads Value.word32? (.integer n.toNat) n := by
  refine plain ?_ rfl
  have small := n.toNat_lt
  rw [Value.word32?, if_pos ⟨by omega, by rw [UInt32.size]; omega⟩, Int.toNat_natCast,
    UInt32.ofNat_toNat]

theorem word64 (n : UInt64) : Reads Value.word64? (.integer n.toNat) n := by
  refine plain ?_ rfl
  have small := n.toNat_lt
  rw [Value.word64?, if_pos ⟨by omega, by rw [UInt64.size]; omega⟩, Int.toNat_natCast,
    UInt64.ofNat_toNat]

theorem map {α β : Type} {read : Value → Option α} {v : Value} {a : α} (h : Reads read v a)
    (f : α → β) : Reads (fun w => f <$> read w) v (f a) :=
  ⟨h.self, fun w hw => congrArg (f <$> ·) (h.of_agrees w hw)⟩

theorem list {α : Type} {item : Value → Option α} {write : α → Value} {as : List α}
    (h : ∀ a ∈ as, Reads item (write a) a) :
    Reads (fun w => w.items? >>= (·.mapM item)) (.array (as.map write)) as where
  self := by
    refine Value.agrees_array fun v hv => ?_
    obtain ⟨a, ha, rfl⟩ := List.mem_map.1 hv
    exact (h a ha).self
  of_agrees w hw := by
    cases w with
    | array ws =>
      change ws.mapM item = some as
      rw [Value.agrees] at hw
      induction as generalizing ws with
      | nil =>
        cases ws with
        | nil => rfl
        | cons w ws => cases hw
      | cons a as ih =>
        cases ws with
        | nil => cases hw
        | cons w ws =>
          rw [List.map_cons, itemsAgree, Bool.and_eq_true] at hw
          rw [List.forall_mem_cons] at h
          rw [List.mapM_cons, h.1.of_agrees w hw.1, ih h.2 ws hw.2]
          rfl
    | text s | integer n | float x | boolean b | dateTime s | table es => cases hw

theorem table {α : Type} {read : Value → Option α} {es : Table} {a : α}
    (distinct : (es.map (·.1)).Nodup) (self : ∀ e ∈ es, e.2.agrees e.2 = true)
    (h : ∀ w, w.Holds es → read w = some a) : Reads read (.table es) a :=
  ⟨Value.agrees_table distinct self, fun w hw => h w (Value.holds_of_agrees hw distinct)⟩

end Reads

namespace Value.Holds

variable {α : Type} {w v : Value} {es : Table} {place : Nat} {name : String}
  {read : Value → Option α} {a default : α}

theorem isRecord (h : w.Holds es) : w.isRecord = true := by
  obtain ⟨fs, rfl, -⟩ := h.exists_table
  rfl

theorem guard_bind {β : Type} (h : w.Holds es) (f : Unit → Option β) :
    (guard (w.isRecord = true) >>= f) = f () := by
  rw [guard, if_pos h.isRecord]
  rfl

theorem field?_rel (h : w.Holds es) (place : Nat) (name : String) :
    Option.Rel (fun v w => v.agrees w = true) (es.lookup name) (w.field? place name) := by
  obtain ⟨fs, rfl, -, rel⟩ := h.exists_table
  exact rel name

theorem exists_field (h : w.Holds es) (place : Nat) (there : es.lookup name = some v) :
    ∃ x, w.field? place name = some x ∧ v.agrees x = true := by
  have rel := h.field?_rel place name
  rw [there] at rel
  generalize w.field? place name = found at rel ⊢
  cases rel with
  | some agree => exact ⟨_, rfl, agree⟩

theorem need (h : w.Holds es) (there : es.lookup name = some v) (reads : Reads read v a) :
    w.need place name read = some a := by
  obtain ⟨x, hx, agree⟩ := h.exists_field place there
  rw [Value.need, hx, Option.bind_some, reads.of_agrees x agree]

theorem maybe (h : w.Holds es) (there : es.lookup name = some v) (reads : Reads read v a) :
    w.maybe place name read default = some a := by
  obtain ⟨x, hx, agree⟩ := h.exists_field place there
  rw [Value.maybe, hx]
  exact reads.of_agrees x agree

theorem maybe_missing (h : w.Holds es) (missing : es.lookup name = none) :
    w.maybe place name read default = some default := by
  have rel := h.field?_rel place name
  rw [missing] at rel
  rw [Value.maybe]
  generalize w.field? place name = found at rel ⊢
  cases rel
  rfl

theorem maybe_option {write : α → Value} {a? : Option α} (h : w.Holds es)
    (there : es.lookup name = a?.map write) (reads : ∀ a ∈ a?, Reads read (write a) a) :
    w.maybe place name (fun w => some <$> read w) none = some a? := by
  cases a? with
  | none => exact h.maybe_missing there
  | some a => exact h.maybe there ((reads a rfl).map some)

end Value.Holds

end MeshNet.Toml
