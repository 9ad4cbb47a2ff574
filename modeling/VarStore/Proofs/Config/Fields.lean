import VarStore.Config.Toml
import VarStore.Proofs.Toml.Lines
import Mathlib.Data.List.Nodup

/-!
# Configurations field by field

A configuration is read from a document by looking up its fields at top level, each for itself: one
that is present must have its type and is what was entered, and one that is absent is as in the
standard configuration (`ofToml_eq_ok_iff`).  Nothing else that the document says is looked at.

A field counts as present in every way in which its name can come up at top level: as a key, as the
first part of a key with dots, and as the first part of a header.  Only the first way can give it its
type, so a field under another key or header is none (`Present`, `Entered`).

Which texts are documents, and with which statements, is said by the grammar (`Toml.Document`).
Written for some of its fields, in any order and in all ways that the grammar leaves open
(`Toml.Spelled`), a configuration is read as the standard one with these fields (`ofToml_spelled`).

* `Field`: the fields, their names, values and types.
* `Described`, `WellTyped`: what a document says of the fields.
* `ofToml_fieldwise`: all of it.
-/

namespace VarStore
namespace Config

open Toml (Statement Table Document Spelled Present Entered statements)

/-! ## Fields -/

/-- The fields of a configuration. -/
inductive Field where
  | initialCapacity | ignoreCase | collections
  deriving DecidableEq

namespace Field

/-- The name of a field in a document. -/
def name : Field → String
  | initialCapacity => "initial_capacity"
  | ignoreCase => "case_insensitive_regex"
  | collections => "collections"

/-- What a configuration has in a field, as a value in a document. -/
def value : Field → Config → Toml.Value
  | initialCapacity, c => .integer c.initialCapacity
  | ignoreCase, c => .boolean c.ignoreCase
  | collections, c => .array (c.collections.map .string)

/-- The value has the type of the field. -/
def HasType : Field → Toml.Value → Prop
  | initialCapacity, v => ∃ n : Nat, v = .integer n
  | ignoreCase, v => ∃ b : Bool, v = .boolean b
  | collections, v => ∃ names : List String, v = .array (names.map .string)

/-- What a document says of a field of the configuration: it is absent and as in the standard
configuration, or what was entered. -/
def Says (f : Field) (ss : List Statement) (c : Config) : Prop :=
  (¬ Present ss f.name ∧ f.value c = f.value standard) ∨ Entered ss f.name (f.value c)

end Field

/-- The configuration is the one that the document describes. -/
def Described (ss : List Statement) (c : Config) : Prop := ∀ f : Field, f.Says ss c

/-- Each field that is present at top level has its type. -/
def WellTyped (ss : List Statement) : Prop :=
  ∀ f : Field, Present ss f.name → ∃ v, Entered ss f.name v ∧ f.HasType v

/-- The standard configuration with some fields of another one. -/
def only (c : Config) (fs : List Field) : Config where
  initialCapacity := if .initialCapacity ∈ fs then c.initialCapacity else standard.initialCapacity
  ignoreCase := if .ignoreCase ∈ fs then c.ignoreCase else standard.ignoreCase
  collections := if .collections ∈ fs then c.collections else standard.collections

/-- The entries for some fields of a configuration. -/
def entries (c : Config) (fs : List Field) : Table := fs.map fun f => (f.name, f.value c)

variable {ss : List Statement} {t : Table} {text : String} {c : Config} {f : Field}
variable {fs : List Field}

theorem hasType_value (f : Field) (c : Config) : f.HasType (f.value c) := by
  cases f <;> exact ⟨_, rfl⟩

theorem exists_value_of_hasType {v : Toml.Value} (h : f.HasType v) : ∃ c, v = f.value c := by
  cases f with
  | initialCapacity =>
    obtain ⟨n, rfl⟩ := h
    exact ⟨{ standard with initialCapacity := n }, rfl⟩
  | ignoreCase =>
    obtain ⟨b, rfl⟩ := h
    exact ⟨{ standard with ignoreCase := b }, rfl⟩
  | collections =>
    obtain ⟨names, rfl⟩ := h
    exact ⟨{ standard with collections := names }, rfl⟩

/-! ## Reading one field -/

theorem natural?_eq_some_iff {v : Toml.Value} {n : Nat} :
    natural? v = some n ↔ v = .integer n := by
  cases v with
  | integer m =>
    rw [natural?, Toml.Value.integer.injEq]
    split
    · rw [Option.some.injEq]
      omega
    · refine iff_of_false nofun ?_
      omega
  | _ => exact iff_of_false nofun nofun

theorem boolean?_eq_some_iff {v : Toml.Value} {b : Bool} :
    boolean? v = some b ↔ v = .boolean b := by
  cases v with
  | boolean a => rw [boolean?, Option.some.injEq, Toml.Value.boolean.injEq]
  | _ => exact iff_of_false nofun nofun

theorem string?_eq_some_iff {v : Toml.Value} {s : String} :
    string? v = some s ↔ v = .string s := by
  cases v with
  | string a => rw [string?, Option.some.injEq, Toml.Value.string.injEq]
  | _ => exact iff_of_false nofun nofun

/-- All elements are strings, and they are these. -/
theorem mapM_string?_eq_some_iff {vs : List Toml.Value} {names : List String} :
    vs.mapM string? = some names ↔ vs = names.map .string := by
  induction vs generalizing names with
  | nil => cases names <;> simp
  | cons v vs ih =>
    rw [List.mapM_cons]
    cases names with
    | nil => simp [Option.bind_eq_some_iff]
    | cons s names =>
      rw [List.map_cons, List.cons.injEq, ← string?_eq_some_iff, ← ih]
      simp [Option.bind_eq_some_iff]

theorem strings?_eq_some_iff {v : Toml.Value} {names : List String} :
    strings? v = some names ↔ v = .array (names.map .string) := by
  cases v with
  | array vs => rw [strings?, mapM_string?_eq_some_iff, Toml.Value.array.injEq]
  | _ => exact iff_of_false nofun nofun

section Field

variable {α : Type} {name : String} {read : Toml.Value → Option α} {standard a : α}
variable {embed : α → Toml.Value}

/-- A field that is read is absent and standard, or what was entered. -/
theorem field_eq_ok_iff (hread : ∀ v a, read v = some a ↔ v = embed a)
    (hwhole : ∀ a, (embed a).IsWhole) (h : Table.ofStatements ss = .ok t) :
    field t name read standard = .ok a ↔
      (¬ Present ss name ∧ a = standard) ∨ Entered ss name (embed a) := by
  rw [← Toml.lookup_eq_none_iff h, ← Toml.lookup_eq_some_iff h name (hwhole a), field]
  cases hlookup : t.lookup name with
  | none => simp [eq_comm]
  | some v =>
    cases hv : read v with
    | none =>
      have hne : v ≠ embed a := fun heq => by
        rw [(hread v a).2 heq] at hv
        nomatch hv
      simp [hv, hne]
    | some b =>
      have hiff : b = a ↔ v = embed a := by rw [← hread, hv, Option.some.injEq]
      simp [hv, hiff]

/-- A field that is not read is present, and what was entered has another type. -/
theorem field_cases (name : String) (standard : α) (hread : ∀ v a, read v = some a ↔ v = embed a)
    (hwhole : ∀ a, (embed a).IsWhole) (h : Table.ofStatements ss = .ok t) :
    (∃ a, field t name read standard = .ok a) ∨
      (field t name read standard = .error (.wrongType name) ∧ Present ss name ∧
        ∀ a, ¬ Entered ss name (embed a)) := by
  cases hlookup : t.lookup name with
  | none => exact .inl ⟨standard, by rw [field, hlookup]⟩
  | some v =>
    cases hv : read v with
    | some a => exact .inl ⟨a, by simp only [field, hlookup, hv]⟩
    | none =>
      refine .inr ⟨by simp only [field, hlookup, hv], ?_, fun a ha => ?_⟩
      · by_contra habsent
        rw [← Toml.lookup_eq_none_iff h, hlookup] at habsent
        nomatch habsent
      · rw [← Toml.lookup_eq_some_iff h name (hwhole a), hlookup, Option.some.injEq, ← hread,
          hv] at ha
        nomatch ha

end Field

/-! ## Reading a configuration -/

/-- A configuration is read field by field. -/
theorem ofTable_eq_ok_iff : ofTable t = .ok c ↔
    field t "initial_capacity" natural? standard.initialCapacity = .ok c.initialCapacity ∧
      field t "case_insensitive_regex" boolean? standard.ignoreCase = .ok c.ignoreCase ∧
      field t "collections" strings? standard.collections = .ok c.collections := by
  constructor
  · intro h
    obtain ⟨capacity, hcapacity, h⟩ := exists_of_bind_eq_ok h
    obtain ⟨ignoreCase, hcase, h⟩ := exists_of_bind_eq_ok h
    obtain ⟨collections, hcollections, h⟩ := exists_of_bind_eq_ok h
    obtain rfl := Except.ok.inj h
    exact ⟨hcapacity, hcase, hcollections⟩
  · rintro ⟨hcapacity, hcase, hcollections⟩
    simp only [ofTable, hcapacity, hcase, hcollections, bind, Except.bind]
    rfl

theorem isWhole_integer (n : Nat) : (Toml.Value.integer n).IsWhole := trivial

theorem isWhole_boolean (b : Bool) : (Toml.Value.boolean b).IsWhole := trivial

theorem isWhole_strings (names : List String) :
    (Toml.Value.array (names.map .string)).IsWhole := trivial

section Document

variable (h : Document text ss t)

include h

theorem ofToml_of_document : ofToml text = ofTable t := by
  rw [ofToml, Toml.read_eq_ok_iff.2 ⟨ss, h⟩]

theorem field_initialCapacity_iff :
    field t "initial_capacity" natural? standard.initialCapacity = .ok c.initialCapacity ↔
      Field.initialCapacity.Says ss c := by
  rw [field_eq_ok_iff (fun _ _ => natural?_eq_some_iff) isWhole_integer h.ofStatements_eq]
  simp only [Field.Says, Field.name, Field.value, Toml.Value.integer.injEq, Int.natCast_inj]

theorem field_ignoreCase_iff :
    field t "case_insensitive_regex" boolean? standard.ignoreCase = .ok c.ignoreCase ↔
      Field.ignoreCase.Says ss c := by
  rw [field_eq_ok_iff (fun _ _ => boolean?_eq_some_iff) isWhole_boolean h.ofStatements_eq]
  simp only [Field.Says, Field.name, Field.value, Toml.Value.boolean.injEq]

theorem field_collections_iff :
    field t "collections" strings? standard.collections = .ok c.collections ↔
      Field.collections.Says ss c := by
  have hinj : Function.Injective Toml.Value.string := fun _ _ heq => Toml.Value.string.inj heq
  rw [field_eq_ok_iff (fun _ _ => strings?_eq_some_iff) isWhole_strings h.ofStatements_eq]
  simp only [Field.Says, Field.name, Field.value, Toml.Value.array.injEq,
    List.map_inj_right hinj]

/-- **A configuration is read from a document if the document describes it.** -/
theorem ofToml_eq_ok_iff : ofToml text = .ok c ↔ Described ss c := by
  rw [ofToml_of_document h, ofTable_eq_ok_iff, field_initialCapacity_iff h,
    field_ignoreCase_iff h, field_collections_iff h]
  constructor
  · rintro ⟨hcapacity, hcase, hcollections⟩ f
    cases f with
    | initialCapacity => exact hcapacity
    | ignoreCase => exact hcase
    | collections => exact hcollections
  · exact fun hall => ⟨hall .initialCapacity, hall .ignoreCase, hall .collections⟩

/-- If a field does not have its type, the first such field is reported. -/
theorem exists_wrongType (hnone : ∀ c, ofToml text ≠ .ok c) : ∃ f : Field,
    ofToml text = .error (.wrongType f.name) ∧ Present ss f.name ∧
      ∀ v, Entered ss f.name v → ¬ f.HasType v := by
  rw [ofToml_of_document h] at hnone ⊢
  rcases field_cases "initial_capacity" standard.initialCapacity
      (fun _ _ => natural?_eq_some_iff) isWhole_integer h.ofStatements_eq with
    ⟨capacity, hcapacity⟩ | ⟨herror, hpresent, hnot⟩
  · rcases field_cases "case_insensitive_regex" standard.ignoreCase
        (fun _ _ => boolean?_eq_some_iff) isWhole_boolean h.ofStatements_eq with
      ⟨ignoreCase, hcase⟩ | ⟨herror, hpresent, hnot⟩
    · rcases field_cases "collections" standard.collections
          (fun _ _ => strings?_eq_some_iff) isWhole_strings h.ofStatements_eq with
        ⟨collections, hcollections⟩ | ⟨herror, hpresent, hnot⟩
      · exact absurd (ofTable_eq_ok_iff.2 ⟨hcapacity, hcase, hcollections⟩)
          (hnone ⟨capacity, ignoreCase, collections⟩)
      · refine ⟨.collections, ?_, hpresent, ?_⟩
        · simp only [ofTable, hcapacity, hcase, herror, bind, Except.bind]
          rfl
        · rintro _ hentered ⟨names, rfl⟩
          exact hnot names hentered
    · refine ⟨.ignoreCase, ?_, hpresent, ?_⟩
      · simp only [ofTable, hcapacity, herror, bind, Except.bind]
        rfl
      · rintro _ hentered ⟨b, rfl⟩
        exact hnot b hentered
  · refine ⟨.initialCapacity, ?_, hpresent, ?_⟩
    · simp only [ofTable, herror, bind, Except.bind]
      rfl
    · rintro _ hentered ⟨n, rfl⟩
      exact hnot n hentered

end Document

/-! ## What a document describes -/

theorem wellTyped_of_described (h : Described ss c) : WellTyped ss := by
  intro f hpresent
  rcases h f with ⟨habsent, -⟩ | hentered
  · exact absurd hpresent habsent
  · exact ⟨_, hentered, hasType_value f c⟩

/-- **What a document says of the fields goes together**, since it says it of each by itself. -/
theorem exists_described (h : WellTyped ss) : ∃ c, Described ss c := by
  have hfield : ∀ f : Field, ∃ c, f.Says ss c := by
    intro f
    by_cases hpresent : Present ss f.name
    · obtain ⟨v, hentered, htype⟩ := h f hpresent
      obtain ⟨c, rfl⟩ := exists_value_of_hasType htype
      exact ⟨c, .inr hentered⟩
    · exact ⟨standard, .inl ⟨hpresent, rfl⟩⟩
  obtain ⟨c₁, h₁⟩ := hfield .initialCapacity
  obtain ⟨c₂, h₂⟩ := hfield .ignoreCase
  obtain ⟨c₃, h₃⟩ := hfield .collections
  refine ⟨⟨c₁.initialCapacity, c₂.ignoreCase, c₃.collections⟩, fun f => ?_⟩
  cases f with
  | initialCapacity => exact h₁
  | ignoreCase => exact h₂
  | collections => exact h₃

/-- What can be wrong with a text is said in one way; only files can be wrong in another. -/
theorem message_of_ofToml {fault : Fault} (h : ofToml text = .error fault) :
    fault.message = "invalid store config: " ++ fault.reason := by
  cases hread : Table.read text with
  | error cause =>
    rw [ofToml, hread] at h
    cases h
    rfl
  | ok t =>
    obtain ⟨ss, hdocument⟩ := Toml.read_eq_ok_iff.1 hread
    obtain ⟨f, herror, -⟩ := exists_wrongType hdocument fun c hc => nomatch h.symm.trans hc
    obtain rfl := Except.error.inj (h.symm.trans herror)
    rfl

/-! ## Writing a configuration -/

theorem name_injective : Function.Injective Field.name := by
  intro f g h
  cases f <;> cases g <;> first | rfl | exact absurd h (by decide)

theorem nodup_entries (c : Config) (h : fs.Nodup) : ((entries c fs).map Prod.fst).Nodup := by
  have hnames : (entries c fs).map Prod.fst = fs.map Field.name := by
    rw [entries, List.map_map]
    rfl
  rw [hnames]
  exact List.Nodup.map name_injective h

theorem value_only (hf : f ∈ fs) : f.value (c.only fs) = f.value c := by
  cases f <;> simp [Field.value, only, hf]

theorem value_only_of_notMem (hf : f ∉ fs) : f.value (c.only fs) = f.value standard := by
  cases f <;> simp [Field.value, only, hf]

/-- The entries for some fields describe the standard configuration with these fields. -/
theorem described_entries (c : Config) (fs : List Field) :
    Described (statements (entries c fs)) (c.only fs) := by
  intro f
  rw [Field.Says, Toml.present_statements_iff, Toml.entered_statements_iff]
  by_cases hf : f ∈ fs
  · right
    rw [value_only hf]
    exact List.mem_map_of_mem hf
  · left
    refine ⟨fun hname => hf ?_, value_only_of_notMem hf⟩
    rw [entries, List.map_map] at hname
    obtain ⟨g, hg, heq⟩ := List.mem_map.1 hname
    exact name_injective heq ▸ hg

/-- **What is written for some fields of a configuration is read** as the standard configuration with
these fields. -/
theorem ofToml_spelled (hfs : fs.Nodup) (h : Spelled (statements (entries c fs)) text) :
    ofToml text = .ok (c.only fs) :=
  (ofToml_eq_ok_iff (h.document (nodup_entries c hfs))).2 (described_entries c fs)

/-- The names of the fields can stand without quotes. -/
theorem bare_name (f : Field) : f.name ≠ "" ∧ ∀ x ∈ f.name.toList, Toml.Bare x := by
  cases f <;> exact ⟨by decide, List.all_iff_forall_prop.1 (by decide)⟩

theorem exists_spelled (hc : c.initialCapacity < 2 ^ 63) (fs : List Field) :
    ∃ text, Spelled (statements (entries c fs)) text := by
  refine Toml.exists_spelled fun p hp => ?_
  obtain ⟨f, -, rfl⟩ := List.mem_map.1 hp
  refine ⟨bare_name f, ?_⟩
  cases f with
  | initialCapacity => exact Toml.exists_written_natural hc
  | ignoreCase => exact Toml.exists_written_boolean 78 _
  | collections => exact Toml.exists_written_strings 78 _

/-- **Configurations are read from documents field by field.**

A text that is a document of the grammar is read as the configuration that it describes; there is one
if each field that is present has its type, and otherwise the field that has not is named and nothing
is read.  A text that is none is refused, and both refusals are worded as faults of the text.

What is written for some fields of a configuration, in any order, is such a document, and describes
the standard configuration with these fields; and it can always be written. -/
theorem ofToml_fieldwise :
    (∀ text ss t, Document text ss t →
      (∀ c, ofToml text = .ok c ↔ Described ss c) ∧
        ((∃ c, ofToml text = .ok c) ↔ WellTyped ss) ∧
        (¬ WellTyped ss → ∃ f : Field, ofToml text = .error (.wrongType f.name) ∧
          Present ss f.name ∧ ∀ v, Entered ss f.name v → ¬ f.HasType v)) ∧
    (∀ text, (¬ ∃ ss t, Document text ss t) → ∃ cause, ofToml text = .error (.malformed cause)) ∧
    (∀ text fault, ofToml text = .error fault →
      fault.message = "invalid store config: " ++ fault.reason) ∧
    ∀ (c : Config) (fs : List Field), c.initialCapacity < 2 ^ 63 → fs.Nodup →
      (∃ text, Spelled (statements (entries c fs)) text) ∧
        ∀ text, Spelled (statements (entries c fs)) text →
          Document text (statements (entries c fs)) (entries c fs) ∧
            ofToml text = .ok (c.only fs) := by
  refine ⟨fun text ss t h => ⟨fun c => ofToml_eq_ok_iff h, ⟨?_, ?_⟩, ?_⟩, ?_, ?_, ?_⟩
  · rintro ⟨c, hc⟩
    exact wellTyped_of_described ((ofToml_eq_ok_iff h).1 hc)
  · intro hwell
    obtain ⟨c, hc⟩ := exists_described hwell
    exact ⟨c, (ofToml_eq_ok_iff h).2 hc⟩
  · intro hwell
    refine exists_wrongType h fun c hc => hwell ?_
    exact wellTyped_of_described ((ofToml_eq_ok_iff h).1 hc)
  · intro text hnone
    cases hread : Table.read text with
    | error cause => exact ⟨cause, by rw [ofToml, hread]⟩
    | ok t =>
      obtain ⟨ss, hdocument⟩ := Toml.read_eq_ok_iff.1 hread
      exact absurd ⟨ss, t, hdocument⟩ hnone
  · exact fun text fault => message_of_ofToml
  · intro c fs hc hfs
    refine ⟨exists_spelled hc fs, fun text h => ⟨?_, ofToml_spelled hfs h⟩⟩
    exact h.document (nodup_entries c hfs)

/-- A document in which the names of fields also stand below top level. -/
def mixedText : String :=
  "initial_capacity = 0xFF # x\nlimits.initial_capacity = 3\n[store]\n" ++
    "case_insensitive_regex = 'no'\n[[store.sets]]\ncollections = [7]\n"

/-- What the document says. -/
def mixedStatements : List Statement :=
  [.entry ⟨[], "initial_capacity"⟩ (.integer 255),
    .entry ⟨["limits"], "initial_capacity"⟩ (.integer 3),
    .table ⟨[], "store"⟩,
    .entry ⟨[], "case_insensitive_regex"⟩ (.string "no"),
    .element ⟨["store"], "sets"⟩,
    .entry ⟨[], "collections"⟩ (.array [.integer 7])]

/-- Only one of the fields stands at top level. -/
theorem described_mixedStatements :
    Described mixedStatements { standard with initialCapacity := 255 } := by
  have habsent : ∀ name ∈ ["case_insensitive_regex", "collections"],
      ¬ Present mixedStatements name := by
    simp [Present, Toml.topLevel, mixedStatements, Statement.isEntry, Statement.key,
      Toml.Key.first]
  intro f
  cases f with
  | initialCapacity => exact .inr List.mem_cons_self
  | ignoreCase => exact .inl ⟨habsent _ (by decide), rfl⟩
  | collections => exact .inl ⟨habsent _ (by decide), rfl⟩

/-- A configuration with a collection whose name is a quote. -/
def quotedConfig : Config := { standard with initialCapacity := 7, collections := ["\""] }

/-- Two of its fields, the second of them first. -/
def quotedText : String := "collections = ['\"']\ninitial_capacity=+7"

theorem spelled_quotedText :
    Spelled (statements (entries quotedConfig [.collections, .initialCapacity])) quotedText := by
  have hblank : Toml.Blanks [' '] := List.forall_mem_singleton.2 (.inl rfl)
  have hkey (f : Field) {b : List Char} (hb : Toml.Blanks b) :
      Toml.KeyWritten ⟨[], f.name⟩ (f.name.toList ++ b) :=
    .intro (.last (.bare (bare_name f).1 (bare_name f).2) hb) (by simp)
  have hname : Toml.Written 78 (.string "\"") ['\'', '"', '\''] :=
    .plain (.string (.literal (.char (Toml.Itself.self (by decide) (by decide)) .close)))
  have hnames : Toml.Written 79 (.array [.string "\""]) "['\"']".toList :=
    .array (.last .nil hname .nil)
  have hseven : Toml.Digits 10 ['7'] ['7'] := .one (by decide)
  have hcapacity : Toml.Written 79 (.integer 7) "+7".toList :=
    .plain (.integer (.decimal .plus (.digits (by decide) hseven)) (by decide) (by decide))
  have hfirst : Toml.StatementWritten (.entry ⟨[], "collections"⟩ (.array [.string "\""]))
      "collections = ['\"']".toList :=
    .entry (.intro (hkey .collections hblank) hblank hnames)
  have hsecond : Toml.StatementWritten (.entry ⟨[], "initial_capacity"⟩ (.integer 7))
      "initial_capacity=+7".toList :=
    .entry (.intro (hkey .initialCapacity (b := []) nofun) (b := []) nofun hcapacity)
  have hlast := Toml.Lines.last (a := []) nofun hsecond (b := []) nofun .none
  have hlines := Toml.Lines.line (a := []) nofun hfirst (b := []) nofun .none .feed hlast
  exact ⟨_, hlines, .inl rfl⟩

set_option maxRecDepth 4000 in
theorem document_mixedText : ∃ t, Document mixedText mixedStatements t :=
  ⟨_, Toml.document_iff.2 ⟨rfl, rfl⟩⟩

/-- A field with a value that is not of its type. -/
def negativeText : String := "initial_capacity = -1"

theorem document_negativeText :
    ∃ t, Document negativeText (statements [("initial_capacity", .integer (-1))]) t :=
  ⟨_, Toml.document_iff.2 ⟨rfl, rfl⟩⟩

theorem not_wellTyped_negative :
    ¬ WellTyped (statements [("initial_capacity", .integer (-1))]) := by
  intro h
  obtain ⟨v, hv, n, rfl⟩ := h .initialCapacity (Toml.present_statements_iff.2 List.mem_cons_self)
  have heq := List.mem_singleton.1 (Toml.entered_statements_iff.1 hv)
  have hn : (n : Int) = -1 := Toml.Value.integer.inj (Prod.mk.inj heq).2
  omega

/-- No document: a field is there twice. -/
def twiceText : String := "collections = []\ncollections = []"

theorem not_document_twiceText : ¬ ∃ ss t, Document twiceText ss t := by
  rintro ⟨ss, t, h⟩
  have hread : Table.read twiceText = .ok t := Toml.read_eq_ok_iff.2 ⟨ss, h⟩
  nomatch hread

/-- Fields below top level are passed over, and a name that is a quote is read back; a field of the
wrong type and one that is there twice are refused. -/
theorem mixedText_and_quotedText_fieldwise :
    (∃ t, Document mixedText mixedStatements t) ∧
      Described mixedStatements { standard with initialCapacity := 255 } ∧
      ofToml mixedText = .ok { standard with initialCapacity := 255 } ∧
      quotedConfig.initialCapacity < 2 ^ 63 ∧
      [Field.collections, Field.initialCapacity].Nodup ∧
      Spelled (statements (entries quotedConfig [.collections, .initialCapacity])) quotedText ∧
      ofToml quotedText = .ok quotedConfig ∧
      (∃ f : Field, ofToml negativeText = .error (.wrongType f.name)) ∧
      ∃ cause, ofToml twiceText = .error (.malformed cause) := by
  obtain ⟨t, ht⟩ := document_mixedText
  have hmixed := (ofToml_fieldwise.1 mixedText mixedStatements t ht).1
    { standard with initialCapacity := 255 }
  have hcapacity : quotedConfig.initialCapacity < 2 ^ 63 := by decide
  have hfields : [Field.collections, Field.initialCapacity].Nodup := by decide
  have hquoted := (ofToml_fieldwise.2.2.2 quotedConfig _ hcapacity hfields).2 quotedText
    spelled_quotedText
  obtain ⟨u, hu⟩ := document_negativeText
  obtain ⟨f, hf, -⟩ := (ofToml_fieldwise.1 negativeText _ u hu).2.2 not_wellTyped_negative
  have htwice := ofToml_fieldwise.2.1 twiceText not_document_twiceText
  exact ⟨⟨t, ht⟩, described_mixedStatements, hmixed.2 described_mixedStatements, hcapacity,
    hfields, spelled_quotedText, hquoted.2, ⟨f, hf⟩, htwice⟩

end Config
end VarStore
