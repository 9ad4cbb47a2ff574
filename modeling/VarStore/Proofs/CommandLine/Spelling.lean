import VarStore.CommandLine.Reader
import Mathlib.Data.List.Forall2
import Mathlib.Data.List.Nodup

/-!
# How a request is spelled

A request holds settings, one for each option that it says something about (`Request.settings`).
It is spelled by words for settings that it holds, one for each, around the name of its command.
What is left out must be what is taken for granted.  The words come in any order, and those that may
stand in front of the command may stand there.  A dataset stands by itself among the words behind
the command, or after a double hyphen at the end, where it may look like anything.

* `Setting.Word`: the words for a setting.
* `Request.Given`: the settings that have to be given for a request.
* `Request.Spelled`: the arguments that spell a request.
-/

namespace VarStore
namespace CommandLine

/-! ## Words -/

/-- The text is a numeral for the number: its decimal digits, in front of which there may be zeros
and, in front of all, a plus sign. -/
def Numeral (n : UInt64) (text : String) : Prop :=
  ∃ sign zeros, (sign = [] ∨ sign = ['+']) ∧
    text.toList = sign ++ (List.replicate zeros '0' ++ Nat.toDigits 10 n.toNat)

/-- The text is a value with which the option of the setting means the setting. -/
def Setting.Value : Setting → String → Prop
  | .format f, value => value = f.name
  | .root path, value => value = path
  | .threads n, value => Numeral n value
  | .ops n, value => Numeral n value
  | .collection name, value => value = name
  | .keys n, value => Numeral n value
  | .config path, value => value = path
  | .verbose, _ => False
  | .list, _ => False

/-- The words for a setting: the long name of its option, and the value if there is one. -/
inductive Setting.Word (x : Setting) : String → Prop
  | bare : x.switch.takesValue = false → x.Word ("--" ++ x.switch.long)
  | valued {value : String} : x.Value value → x.Word ("--" ++ x.switch.long ++ "=" ++ value)

/-- The setting has an empty path, which no option can be given. -/
def Setting.IsVoid (x : Setting) : Prop := x = .root "" ∨ x = .config ""

/-- The words for settings, in their order. -/
def Words (xs : List Setting) (args : List String) : Prop := List.Forall₂ Setting.Word xs args

/-! ## What a request holds -/

/-- The level behind a command. -/
def Command.level : Command → Level
  | .patterns _ => .patterns
  | .stress _ => .stress

/-- The name of a command. -/
def Command.word : Command → String
  | .patterns _ => "patterns"
  | .stress _ => "stress"

/-- The settings that belong to a command. -/
def Command.settings : Command → List Setting
  | .patterns q => .root q.root :: if q.list then [.list] else []
  | .stress q =>
    [.threads q.threads, .ops q.ops, .collection q.collection, .keys q.keys] ++
      q.config.toList.map .config

/-- The settings that a request holds. -/
def Request.settings (r : Request) : List Setting :=
  (if r.verbose then [.verbose] else []) ++ .format r.format :: r.command.settings

/-- The texts in a request. -/
def Request.texts (r : Request) : List String :=
  match r.command with
  | .patterns q => [q.dataset, q.root]
  | .stress q => q.collection :: q.config.toList

/-- What is taken for granted where nothing is said. -/
def Setting.standard : List Setting :=
  [.format .text, .root ".", .threads 4, .ops 10000, .collection "GLOBAL", .keys 16]

/-- The settings give the request: it holds them, no option is given twice, and what is left out is
taken for granted. -/
structure Request.Given (r : Request) (xs : List Setting) : Prop where
  holds : ∀ x ∈ xs, x ∈ r.settings
  once : (xs.map Setting.switch).Nodup
  rest : ∀ x ∈ r.settings, x ∈ xs ∨ x ∈ Setting.standard

/-- The arguments behind a command with some settings.  A dataset that does not begin with a hyphen
stands anywhere, and every dataset may stand at the end behind a double hyphen. -/
inductive Command.Behind : Command → List Setting → List String → Prop
  | stress {q : StressRequest} {xs : List Setting} {args : List String} :
    Words xs args → Behind (.stress q) xs args
  | bare {q : PatternsRequest} {xs ys : List Setting} {as bs : List String} :
    q.dataset.toList.head? ≠ some '-' → Words xs as → Words ys bs →
    Behind (.patterns q) (xs ++ ys) (as ++ q.dataset :: bs)
  | last {q : PatternsRequest} {xs : List Setting} {as : List String} :
    Words xs as → Behind (.patterns q) xs (as ++ ["--", q.dataset])

/-- The arguments spell the request: words, the name of the command, and more words. -/
inductive Request.Spelled (r : Request) : List String → Prop
  | intro {xs ys : List Setting} {front behind : List String} :
    r.Given (xs ++ ys) → (∀ x ∈ xs, Level.top.allows x.switch = true) → Words xs front →
    r.command.Behind ys behind → r.Spelled (front ++ r.command.word :: behind)

variable {x : Setting} {r : Request}

/-! ## What a request holds, case by case -/

theorem mem_settings_iff : x ∈ r.settings ↔
    (r.verbose = true ∧ x = .verbose) ∨ x = .format r.format ∨ x ∈ r.command.settings := by
  rw [Request.settings, List.mem_append, List.mem_cons, List.mem_ite_nil_right, List.mem_singleton]

theorem mem_patterns_iff {q : PatternsRequest} : x ∈ (Command.patterns q).settings ↔
    x = .root q.root ∨ (q.list = true ∧ x = .list) := by
  rw [Command.settings, List.mem_cons, List.mem_ite_nil_right, List.mem_singleton]

theorem mem_stress_iff {q : StressRequest} : x ∈ (Command.stress q).settings ↔
    x = .threads q.threads ∨ x = .ops q.ops ∨ x = .collection q.collection ∨ x = .keys q.keys ∨
      ∃ path, q.config = some path ∧ x = .config path := by
  simp only [Command.settings, List.cons_append, List.nil_append, List.mem_cons, List.mem_map,
    Option.mem_toList, eq_comm]

theorem mem_settings_of_command (hx : x ∈ r.command.settings) : x ∈ r.settings :=
  mem_settings_iff.2 (.inr (.inr hx))

/-- What belongs to a command cannot stand in front of it. -/
theorem not_allows_of_command {c : Command} (hx : x ∈ c.settings) :
    ¬ Level.top.allows x.switch = true := by
  cases c with
  | patterns q =>
    rcases mem_patterns_iff.1 hx with rfl | ⟨-, rfl⟩ <;> exact Bool.false_ne_true
  | stress q =>
    rcases mem_stress_iff.1 hx with rfl | rfl | rfl | rfl | ⟨path, -, rfl⟩ <;>
      exact Bool.false_ne_true

/-- Behind the command everything that the request holds may stand. -/
theorem allows_of_mem_settings (hx : x ∈ r.settings) :
    r.command.level.allows x.switch = true := by
  rcases mem_settings_iff.1 hx with ⟨-, rfl⟩ | rfl | hx
  · cases r.command <;> rfl
  · cases r.command <;> rfl
  · cases hcommand : r.command with
    | patterns q =>
      rw [hcommand] at hx
      rcases mem_patterns_iff.1 hx with rfl | ⟨-, rfl⟩ <;> rfl
    | stress q =>
      rw [hcommand] at hx
      rcases mem_stress_iff.1 hx with rfl | rfl | rfl | rfl | ⟨path, -, rfl⟩ <;> rfl

theorem verbose_mem_settings_iff : .verbose ∈ r.settings ↔ r.verbose = true := by
  have hnot : .verbose ∉ r.command.settings := fun h => not_allows_of_command h rfl
  simp [mem_settings_iff, hnot]

theorem list_mem_settings_iff {q : PatternsRequest} (hcommand : r.command = .patterns q) :
    .list ∈ r.settings ↔ q.list = true := by
  simp [mem_settings_iff, mem_patterns_iff, hcommand]

/-- The file of a configuration is held if there is one, and no other is held. -/
theorem config_mem_settings_iff {q : StressRequest} (hcommand : r.command = .stress q)
    {path : String} : .config path ∈ r.settings ↔ q.config = some path := by
  simp [mem_settings_iff, mem_stress_iff, hcommand]

/-- The paths that a request holds are texts in it. -/
theorem not_isVoid (htexts : ∀ t ∈ r.texts, t ≠ "") (hx : x ∈ r.settings) : ¬ x.IsVoid := by
  rintro (rfl | rfl)
  · cases hcommand : r.command with
    | patterns q =>
      have hroot : "" = q.root := by
        simpa [mem_settings_iff, mem_patterns_iff, hcommand] using hx
      refine htexts "" ?_ rfl
      simp [Request.texts, hcommand, ← hroot]
    | stress q => simp [mem_settings_iff, mem_stress_iff, hcommand] at hx
  · cases hcommand : r.command with
    | patterns q => simp [mem_settings_iff, mem_patterns_iff, hcommand] at hx
    | stress q =>
      rw [config_mem_settings_iff hcommand] at hx
      refine htexts "" ?_ rfl
      simp [Request.texts, hcommand, hx]

/-- A request holds one setting for an option at most. -/
theorem nodup_settings (r : Request) : (r.settings.map Setting.switch).Nodup := by
  obtain ⟨verbose, format, ⟨dataset, root, list⟩ | ⟨threads, ops, collection, keys, config⟩⟩ := r
  · cases verbose <;> cases list <;> simp [Request.settings, Command.settings, Setting.switch]
  · cases verbose <;> cases config <;> simp [Request.settings, Command.settings, Setting.switch]

theorem eq_of_switch_eq {y : Setting} (hx : x ∈ r.settings) (hy : y ∈ r.settings)
    (h : x.switch = y.switch) : x = y :=
  List.inj_on_of_nodup_map (nodup_settings r) hx hy h

end CommandLine
end VarStore
