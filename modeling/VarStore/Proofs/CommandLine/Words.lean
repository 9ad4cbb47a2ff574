import VarStore.Proofs.CommandLine.Spelling
import VarStore.Proofs.Text.Digits
import Mathlib.Data.List.TakeWhile

/-!
# Reading words for settings

A word is read without a look at what was read before it, except that its option must be new
(`argument_of_word`), and it leaves nothing open.  So after any row of words the progress is known
(`readFront_append`, `readBehind_append`): the settings were added in the order of the words.

The first equals sign of a word divides it, since no long name has one, and the name of a command
does not begin with a hyphen, so neither values nor words are taken for something else.

* `Progress.Admits`: the settings that can still be added.
* `exists_readBehind`: what is read behind a command.
-/

namespace VarStore
namespace CommandLine

variable {x : Setting} {word value text : String} {n : UInt64}
variable {xs ys : List Setting} {args rest : List String} {p : Progress}

/-! ## Values are understood -/

theorem natural?_of_numeral {zeros n : Nat} :
    natural? (List.replicate zeros '0' ++ Nat.toDigits 10 n) = some n := by
  have hne : (List.replicate zeros '0' ++ Nat.toDigits 10 n).isEmpty = false := by
    simp [Nat.toDigits_ne_nil]
  have hall : (List.replicate zeros '0' ++ Nat.toDigits 10 n).all Char.isDigit = true := by
    rw [List.all_append, Bool.and_eq_true, List.all_eq_true, List.all_eq_true]
    refine ⟨fun c hc => ?_, fun _ => Text.isDigit_of_mem_toDigits⟩
    rw [List.eq_of_mem_replicate hc]
    rfl
  rw [natural?, hne, hall, if_neg (by simp), Text.ofDigits_replicate_zero_append,
    Text.ofDigits_toDigits]

/-- Neither zeros nor digits begin with a plus sign. -/
theorem head?_digits_ne {zeros n : Nat} :
    (List.replicate zeros '0' ++ Nat.toDigits 10 n).head? ≠ some '+' := by
  intro h
  have hmem := List.mem_of_mem_head? h
  rcases List.mem_append.1 hmem with hmem | hmem
  · exact absurd (List.eq_of_mem_replicate hmem) (by decide)
  · exact absurd (Text.isDigit_of_mem_toDigits hmem) (by decide)

theorem number_of_numeral (h : Numeral n text) : number text = .ok n := by
  obtain ⟨sign, zeros, hsign, htext⟩ := h
  have hsize : n.toNat < UInt64.size := n.toNat_lt_size
  rcases hsign with rfl | rfl
  · rw [List.nil_append] at htext
    have hfirst : ∀ rest, text.toList ≠ '+' :: rest := by
      intro rest heq
      rw [htext] at heq
      exact head?_digits_ne (congrArg List.head? heq)
    rw [number]
    split
    · next hnone =>
      split at hnone
      · next heq => exact absurd heq (hfirst _)
      · rw [htext, natural?_of_numeral] at hnone
        cases hnone
    · next hsome =>
      split at hsome
      · next heq => exact absurd heq (hfirst _)
      · rw [htext, natural?_of_numeral] at hsome
        cases hsome
        rw [if_pos hsize, UInt64.ofNat_toNat]
  · rw [number, htext]
    simp only [List.cons_append, List.nil_append, natural?_of_numeral, if_pos hsize,
      UInt64.ofNat_toNat]

/-- **A value means the setting that it is a value for**, unless it is an empty path. -/
theorem interpret_of_value (h : x.Value value) (hx : ¬ x.IsVoid) :
    x.switch.interpret value = .ok x := by
  rw [Setting.IsVoid, not_or] at hx
  obtain ⟨hroot, hconfig⟩ := hx
  cases x with
  | verbose => exact h.elim
  | list => exact h.elim
  | format f =>
    obtain rfl : value = f.name := h
    cases f <;> rfl
  | root path =>
    obtain rfl : value = path := h
    have hne : value ≠ "" := fun hvalue => hroot (congrArg Setting.root hvalue)
    rw [Setting.switch, Switch.interpret, CommandLine.path, if_neg hne]
    rfl
  | config path =>
    obtain rfl : value = path := h
    have hne : value ≠ "" := fun hvalue => hconfig (congrArg Setting.config hvalue)
    rw [Setting.switch, Switch.interpret, CommandLine.path, if_neg hne]
    rfl
  | collection name =>
    obtain rfl : value = name := h
    rfl
  | threads n | ops n | keys n =>
    rw [Setting.switch, Switch.interpret, number_of_numeral h]
    rfl

theorem takesValue_of_value (h : x.Value value) : x.switch.takesValue = true := by
  cases x with
  | verbose | list => exact h.elim
  | _ => rfl

theorem interpret_of_bare (h : x.switch.takesValue = false) : x.switch.interpret "" = .ok x := by
  cases x with
  | verbose | list => rfl
  | _ => nomatch h

/-! ## Words are read -/

/-- At its level an option is found by its long name. -/
theorem long?_long {l : Level} {s : Switch} (h : l.allows s = true) : l.long? s.long = some s := by
  cases l <;> cases s <;> first | exact absurd h (by decide) | rfl

theorem long_ne_nil (s : Switch) : s.long.toList ≠ [] := by
  cases s <;> decide

theorem equals_notMem_long (s : Switch) : '=' ∉ s.long.toList := by
  cases s <;> decide

theorem splitEquals_of_notMem {cs : List Char} (h : '=' ∉ cs) :
    Progress.splitEquals cs = (cs, none) := by
  have hdrop : cs.dropWhile (· ≠ '=') = [] := by
    rw [List.dropWhile_eq_nil_iff]
    intro c hc
    exact decide_eq_true fun heq => h (heq ▸ hc)
  rw [Progress.splitEquals, hdrop]

/-- The first equals sign divides, whatever follows it. -/
theorem splitEquals_append {cs : List Char} (h : '=' ∉ cs) (ds : List Char) :
    Progress.splitEquals (cs ++ '=' :: ds) = (cs, some ds) := by
  have hcs : ∀ c ∈ cs, decide (c ≠ '=') = true := fun c hc =>
    decide_eq_true fun heq => h (heq ▸ hc)
  rw [Progress.splitEquals, List.dropWhile_append_of_pos hcs, List.takeWhile_append_of_pos hcs,
    List.dropWhile_cons_of_neg (by decide), List.takeWhile_cons_of_neg (by decide),
    List.append_nil]

namespace Progress

/-- Nothing is open, and no double hyphen was read. -/
structure Ready (p : Progress) : Prop where
  plain : p.plain = false
  pending : p.pending = none

/-- The progress with further settings. -/
def extend (p : Progress) (xs : List Setting) : Progress := { p with settings := p.settings ++ xs }

@[simp] theorem extend_level (p : Progress) (xs : List Setting) : (p.extend xs).level = p.level :=
  rfl

@[simp] theorem extend_settings (p : Progress) (xs : List Setting) :
    (p.extend xs).settings = p.settings ++ xs := rfl

@[simp] theorem extend_nil (p : Progress) : p.extend [] = p := by
  rw [extend, List.append_nil]

theorem extend_extend (p : Progress) (xs ys : List Setting) :
    (p.extend xs).extend ys = p.extend (xs ++ ys) := by
  rw [extend, extend, extend, List.append_assoc]

theorem Ready.extend (h : p.Ready) (xs : List Setting) : (p.extend xs).Ready := ⟨h.plain, h.pending⟩

theorem ready_start (l : Level) : (start l).Ready := ⟨rfl, rfl⟩

theorem Ready.not_plain (h : p.Ready) : ¬ p.plain = true := Bool.eq_false_iff.1 h.plain

theorem settle_eq (h : p.pending = none) : p.settle = .ok p := by
  rw [Progress.settle, h]

theorem has_eq_true_iff {s : Switch} : p.has s = true ↔ ∃ x ∈ p.settings, x.switch = s := by
  simp only [has, List.any_eq_true, decide_eq_true_eq]

/-- An option that takes no value was given if its setting is there. -/
theorem has_eq_true_iff_mem (honly : ∀ y : Setting, y.switch = x.switch → y = x) :
    p.has x.switch = true ↔ x ∈ p.settings := by
  rw [has_eq_true_iff]
  constructor
  · rintro ⟨y, hy, heq⟩
    exact honly y heq ▸ hy
  · exact fun hx => ⟨x, hx, rfl⟩

/-- The settings can be added: each is allowed and has a value that can be, and no option comes
twice. -/
structure Admits (p : Progress) (xs : List Setting) : Prop where
  allowed : ∀ x ∈ xs, p.level.allows x.switch = true
  sound : ∀ x ∈ xs, ¬ x.IsVoid
  once : ((p.settings ++ xs).map Setting.switch).Nodup

theorem Admits.has_eq_false (h : p.Admits (x :: xs)) : p.has x.switch = false := by
  rw [Bool.eq_false_iff, Ne, has_eq_true_iff]
  rintro ⟨y, hy, heq⟩
  have honce := h.once
  rw [List.map_append, List.nodup_append] at honce
  exact honce.2.2 y.switch (List.mem_map_of_mem hy) x.switch
    (List.mem_map_of_mem List.mem_cons_self) heq

theorem Admits.tail (h : p.Admits (x :: xs)) : (p.extend [x]).Admits xs where
  allowed y hy := h.allowed y (List.mem_cons_of_mem x hy)
  sound y hy := h.sound y (List.mem_cons_of_mem x hy)
  once := by
    rw [extend_settings, List.append_assoc]
    exact h.once

theorem Admits.left (h : p.Admits (xs ++ ys)) : p.Admits xs where
  allowed y hy := h.allowed y (List.mem_append_left ys hy)
  sound y hy := h.sound y (List.mem_append_left ys hy)
  once := by
    have honce := h.once
    rw [← List.append_assoc, List.map_append] at honce
    exact (List.nodup_append.1 honce).1

theorem Admits.right (h : p.Admits (xs ++ ys)) : (p.extend xs).Admits ys where
  allowed y hy := h.allowed y (List.mem_append_right xs hy)
  sound y hy := h.sound y (List.mem_append_right xs hy)
  once := by
    rw [extend_settings, List.append_assoc]
    exact h.once

theorem note_eq {s : Switch} (hnew : p.has s = false) (hx : s.interpret value = .ok x) :
    p.note s value = .ok (p.extend [x]) := by
  rw [note, hnew, if_neg Bool.false_ne_true, hx]
  rfl

theorem give_eq {s : Switch} (hp : p.Ready) (hnew : p.has s = false)
    (hx : s.interpret value = .ok x) : p.give s value = .ok (p.extend [x]) := by
  rw [give, settle_eq hp.pending]
  exact note_eq hnew hx

/-- An argument with two hyphens and something behind them is a long option. -/
theorem argument_eq_longOption {arg : String} {cs : List Char} (hp : p.Ready)
    (harg : arg.toList = '-' :: '-' :: cs) (hcs : cs ≠ []) : p.argument arg = p.longOption cs := by
  obtain ⟨c, cs, rfl⟩ := List.exists_cons_of_ne_nil hcs
  rw [argument, if_neg hp.not_plain, harg]
  rfl

/-- **A word is read as the setting that it is a word for.** -/
theorem argument_of_word (hp : p.Ready) (h : p.Admits (x :: xs)) (hword : x.Word word) :
    p.argument word = .ok (p.extend [x]) := by
  have hfound := long?_long (h.allowed x List.mem_cons_self)
  have hsound := h.sound x List.mem_cons_self
  have hnew := h.has_eq_false
  have hequals := equals_notMem_long x.switch
  cases hword with
  | bare htakes =>
    have hlist : ("--" ++ x.switch.long).toList = '-' :: '-' :: x.switch.long.toList := by
      rw [String.toList_append]
      rfl
    rw [argument_eq_longOption hp hlist (long_ne_nil _), longOption, splitEquals_of_notMem hequals]
    simp only [String.ofList_toList, hfound, htakes]
    exact give_eq hp hnew (interpret_of_bare htakes)
  | @valued value hvalue =>
    have hlist : ("--" ++ x.switch.long ++ "=" ++ value).toList =
        '-' :: '-' :: (x.switch.long.toList ++ '=' :: value.toList) := by
      simp only [String.toList_append, List.append_assoc]
      rfl
    rw [argument_eq_longOption hp hlist (by simp), longOption, splitEquals_append hequals]
    simp only [String.ofList_toList, hfound, takesValue_of_value hvalue]
    exact give_eq hp hnew (interpret_of_value hvalue hsound)

end Progress

/-! ## Whole rows of words -/

theorem readBehind_append (hwords : Words xs args) (hp : p.Ready) (h : p.Admits xs) :
    readBehind p (args ++ rest) = readBehind (p.extend xs) rest := by
  induction hwords generalizing p with
  | nil => rw [List.nil_append, Progress.extend_nil]
  | @cons x word xs args hword hwords ih =>
    rw [List.cons_append, readBehind, Progress.argument_of_word hp h hword]
    change readBehind (p.extend [x]) (args ++ rest) = _
    rw [ih (hp.extend [x]) h.tail, Progress.extend_extend, List.singleton_append]

/-- No word for a setting is the name of a command. -/
theorem named?_of_word (h : x.Word word) : CommandWord.named? word = none := by
  have hhead : word.toList.head? = some '-' := by
    cases h with
    | bare => rw [String.toList_append]; rfl
    | valued => simp only [String.toList_append, List.append_assoc]; rfl
  have hne : ∀ name : String, name.toList.head? ≠ some '-' → word ≠ name := fun name hname heq =>
    hname (heq ▸ hhead)
  rw [CommandWord.named?, if_neg (hne _ (by decide)), if_neg (hne _ (by decide)),
    if_neg (hne _ (by decide))]

theorem Progress.Ready.awaits (h : p.Ready) : p.awaits = false := by
  rw [Progress.awaits, h.pending, Option.any_none, Bool.and_false]

theorem readFront_append (hwords : Words xs args) (hp : p.Ready) (h : p.Admits xs) :
    readFront p (args ++ rest) = readFront (p.extend xs) rest := by
  induction hwords generalizing p with
  | nil => rw [List.nil_append, Progress.extend_nil]
  | @cons x word xs args hword hwords ih =>
    rw [List.cons_append, readFront, hp.plain, if_neg Bool.false_ne_true, hp.awaits,
      if_neg Bool.false_ne_true, named?_of_word hword]
    simp only [Progress.argument_of_word hp h hword]
    change readFront (p.extend [x]) (args ++ rest) = _
    rw [ih (hp.extend [x]) h.tail, Progress.extend_extend, List.singleton_append]

/-- The name of a command ends what stands in front of it. -/
theorem readFront_command (c : Command) (hp : p.Ready) :
    readFront p (c.word :: rest) = (readBehind (.start c.level) rest).map (Parts.mk p) := by
  rw [readFront, hp.plain, if_neg Bool.false_ne_true, hp.awaits, if_neg Bool.false_ne_true]
  cases c <;> rfl

/-! ## Datasets -/

namespace Progress

/-- The progress with a dataset. -/
def withDataset (p : Progress) (dataset : String) : Progress := { p with dataset := some dataset }

theorem plainArgument_eq {dataset : String} (hlevel : p.level = .patterns)
    (hnone : p.dataset = none) (hpending : p.pending = none) :
    p.plainArgument dataset = .ok (p.withDataset dataset) := by
  have hplain : p.plainArgument dataset = p.settle.map (·.withDataset dataset) := by
    rw [plainArgument, hlevel, hnone]
    rfl
  rw [hplain, settle_eq hpending]
  rfl

/-- A dataset that does not begin with a hyphen is taken where it stands. -/
theorem argument_of_dataset {dataset : String} (hp : p.Ready) (hlevel : p.level = .patterns)
    (hnone : p.dataset = none) (hhead : dataset.toList.head? ≠ some '-') :
    p.argument dataset = .ok (p.withDataset dataset) := by
  rw [argument, if_neg hp.not_plain]
  split
  · rename_i heq
    exact absurd (congrArg List.head? heq) hhead
  · rename_i heq
    exact absurd (congrArg List.head? heq) hhead
  · rename_i heq
    exact absurd (congrArg List.head? heq) hhead
  · rw [hp.awaits, if_neg Bool.false_ne_true, plainArgument_eq hlevel hnone hp.pending]

/-- Behind a double hyphen everything is a dataset, whatever it looks like. -/
theorem argument_of_plain {dataset : String} (hplain : p.plain = true)
    (hpending : p.pending = none) (hlevel : p.level = .patterns) (hnone : p.dataset = none) :
    p.argument dataset = .ok (p.withDataset dataset) := by
  rw [argument, if_pos hplain, plainArgument_eq hlevel hnone hpending]

/-- The progress after a double hyphen. -/
def asPlain (p : Progress) : Progress := { p with plain := true }

theorem argument_hyphens (hp : p.Ready) : p.argument "--" = .ok p.asPlain := by
  rw [argument, if_neg hp.not_plain]
  rfl

end Progress

/-- The dataset that a command is about. -/
def Command.dataset? : Command → Option String
  | .patterns q => some q.dataset
  | .stress _ => none

/-- **What stands behind a command is read as its settings and its dataset.** -/
theorem exists_readBehind {c : Command} (hbehind : c.Behind ys args)
    (h : (Progress.start c.level).Admits ys) :
    ∃ p, readBehind (.start c.level) args = .ok p ∧ p.level = c.level ∧ p.settings = ys ∧
      p.dataset = c.dataset? := by
  have hstart := Progress.ready_start c.level
  cases hbehind with
  | stress hwords =>
    refine ⟨(Progress.start .stress).extend ys, ?_, rfl, rfl, rfl⟩
    rw [← List.append_nil args, readBehind_append hwords hstart h, readBehind]
    exact Progress.settle_eq rfl
  | @bare q xs ys as bs hhead hxs hys =>
    have hdataset := Progress.argument_of_dataset (hstart.extend xs) rfl rfl hhead
    have hright : (((Progress.start .patterns).extend xs).withDataset q.dataset).Admits ys :=
      ⟨h.right.allowed, h.right.sound, h.right.once⟩
    refine ⟨(((Progress.start .patterns).extend xs).withDataset q.dataset).extend ys, ?_, rfl, rfl,
      rfl⟩
    rw [readBehind_append hxs hstart h.left, readBehind, hdataset]
    change readBehind (((Progress.start .patterns).extend xs).withDataset q.dataset) bs = _
    rw [← List.append_nil bs, readBehind_append hys ⟨rfl, rfl⟩ hright, readBehind]
    exact Progress.settle_eq rfl
  | @last q xs as hxs =>
    refine ⟨((Progress.start .patterns).extend ys).asPlain.withDataset q.dataset, ?_, rfl, rfl, rfl⟩
    rw [readBehind_append hxs hstart h, readBehind,
      Progress.argument_hyphens (hstart.extend ys)]
    change readBehind ((Progress.start .patterns).extend ys).asPlain [q.dataset] = _
    rw [readBehind, Progress.argument_of_plain rfl rfl rfl rfl]
    exact Progress.settle_eq
      (p := ((Progress.start .patterns).extend ys).asPlain.withDataset q.dataset) rfl

end CommandLine
end VarStore
