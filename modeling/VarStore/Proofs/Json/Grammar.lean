import VarStore.Proofs.Json.Document
import Mathlib.Data.List.DropRight

/-!
# The grammar of JSON

Which texts spell a document, said without a reader (`Spells`).  A document has many spellings: there
may be blanks on both sides of every document and of every name of a member, and between quotes a
character is written as itself, by a letter, by its code or by the codes of a surrogate pair.  So a
string is always one that denotes text.

The grammar has no ambiguity that a reader could trip over.  One that passes over documents stops where
the document ends, whatever it is and whatever stands behind it (`Spells.passesOver`), and one that asks
for a string gets it or fails (`Spells.expectString`).  How many of the blanks behind a document a reader
takes along is up to the reader; none of them matters to what is read next, which begins by leaving out
blanks.

A number goes on as long as it can, so it must not be followed by a sign that could belong to it
(`EndsNumber`).  Behind a document within another one there is a blank, a comma, or a closing sign.

* `Escaped`, `Quoted`, `Numeral`, `Spells`: the grammar.
* `Numeral.readNumber`, `Spells.passesOver`, `Spells.expectString`: reading what it produces.
-/

namespace VarStore
namespace Json

/-! ## How documents are spelled -/

/-- Nothing but blanks. -/
def Blank (a : List Char) : Prop := ∀ c ∈ a, isBlank c = true

/-- The letters that may stand behind a backslash, each with the character that it means there. -/
def letters : List (Char × Char) :=
  [('"', '"'), ('\\', '\\'), ('/', '/'), ('b', '\x08'), ('f', '\x0c'), ('n', '\n'), ('r', '\r'),
    ('t', '\t')]

/-- What a character may be written as between quotes. -/
inductive Escaped (c : Char) : List Char → Prop
  | self : c ≠ '"' → c ≠ '\\' → 0x20 ≤ c.toNat → Escaped c [c]
  | letter {e : Char} : (e, c) ∈ letters → Escaped c ['\\', e]
  | code {i j k l : Char} : Text.ofHex? [i, j, k, l] = some c.toNat →
    Escaped c ['\\', 'u', i, j, k, l]
  | pair {i j k l i' j' k' l' : Char} {high low : Nat} :
    Text.ofHex? [i, j, k, l] = some high → 0xD800 ≤ high → high < 0xDC00 →
    Text.ofHex? [i', j', k', l'] = some low → 0xDC00 ≤ low → low < 0xE000 →
    c.toNat = 0x10000 + (high - 0xD800) * 0x400 + (low - 0xDC00) →
    Escaped c ['\\', 'u', i, j, k, l, '\\', 'u', i', j', k', l']

/-- A string and the closing quote. -/
inductive Body : List Char → List Char → Prop
  | close : Body [] ['"']
  | char {c : Char} {s w v : List Char} : Escaped c w → Body s v → Body (c :: s) (w ++ v)

/-- What a string may be written as. -/
inductive Quoted (s : List Char) : List Char → Prop
  | intro {w : List Char} : Body s w → Quoted s ('"' :: w)

/-- Digits, at least one. -/
def Digits (ds : List Char) : Prop := ds ≠ [] ∧ ∀ d ∈ ds, d.isDigit = true

/-- What stands in front of the point: a zero alone, or digits that do not begin with one. -/
inductive Whole : List Char → Prop
  | zero : Whole ['0']
  | digits {d : Char} {ds : List Char} : d ≠ '0' → Digits (d :: ds) → Whole (d :: ds)

/-- The point and what stands behind it, if there is one. -/
inductive Fraction : List Char → Prop
  | none : Fraction []
  | digits {ds : List Char} : Digits ds → Fraction ('.' :: ds)

/-- The exponent, if there is one. -/
inductive Exponent : List Char → Prop
  | none : Exponent []
  | digits {e : Char} {sign ds : List Char} : e = 'e' ∨ e = 'E' →
    sign ∈ [[], ['+'], ['-']] → Digits ds → Exponent (e :: (sign ++ ds))

/-- What a number may be written as. -/
inductive Numeral : List Char → Prop
  | intro {sign w f e : List Char} : sign ∈ [[], ['-']] → Whole w → Fraction f → Exponent e →
    Numeral (sign ++ (w ++ (f ++ e)))

/-- A member of an object: its name and its value, each with the text that it is written as. -/
structure MemberText where
  name : List Char
  nameText : List Char
  value : Value
  valueText : List Char

namespace MemberText

/-- The member. -/
def member (m : MemberText) : List Char × Value := (m.name, m.value)

/-- The text of the member. -/
def text (m : MemberText) : List Char := m.nameText ++ ':' :: m.valueText

end MemberText

/-- What the name of a member may be written as. -/
inductive Named (name : List Char) : List Char → Prop
  | intro {a w b : List Char} : Blank a → Quoted name w → Blank b → Named name (a ++ (w ++ b))

/-- Texts behind the first one, each with a comma in front of it. -/
def further (texts : List (List Char)) : List Char := texts.flatMap (',' :: ·)

/-- **What a document may be written as.** -/
inductive Spells : Value → List Char → Prop
  | null : Spells .null "null".toList
  | true : Spells (.bool true) "true".toList
  | false : Spells (.bool false) "false".toList
  | number {t : List Char} : Numeral t → Spells (.number t) t
  | string {s t : List Char} : Quoted s t → Spells (.string s) t
  | emptyArray {a : List Char} : Blank a → Spells (.array []) ('[' :: (a ++ [']']))
  | array {p : Value × List Char} {ps : List (Value × List Char)} :
    (∀ q ∈ p :: ps, Spells q.1 q.2) →
    Spells (.array ((p :: ps).map (·.1))) ('[' :: (p.2 ++ (further (ps.map (·.2)) ++ [']'])))
  | emptyObject {a : List Char} : Blank a → Spells (.object []) ('\x7b' :: (a ++ ['\x7d']))
  | object {m : MemberText} {ms : List MemberText} :
    (∀ n ∈ m :: ms, Named n.name n.nameText) → (∀ n ∈ m :: ms, Spells n.value n.valueText) →
    Spells (.object ((m :: ms).map MemberText.member))
      ('\x7b' :: (m.text ++ (further (ms.map MemberText.text) ++ ['\x7d'])))
  | blanks {v : Value} {a t b : List Char} : Blank a → Spells v t → Blank b →
    Spells v (a ++ (t ++ b))

/-! ## Reading strings -/

variable {c : Char} {s t w rest : List Char} {v : Value}

/-- No character has the code of half a surrogate pair. -/
theorem not_isSurrogate_toNat (c : Char) : isLow c.toNat = false ∧ isHigh c.toNat = false := by
  have hvalid : c.toNat < 0xD800 ∨ (0xDFFF < c.toNat ∧ c.toNat < 0x110000) := c.valid
  simp only [isLow, isHigh, Bool.and_eq_false_iff, decide_eq_false_iff_not]
  omega

/-- The letters of the grammar are the letters that are read. -/
theorem mem_letters_iff {e : Char} : (e, c) ∈ letters ↔ letterEscape? e = some c := by
  constructor
  · intro h
    simp only [letters, List.mem_cons, Prod.mk.injEq, List.not_mem_nil, or_false] at h
    rcases h with ⟨rfl, rfl⟩ | ⟨rfl, rfl⟩ | ⟨rfl, rfl⟩ | ⟨rfl, rfl⟩ | ⟨rfl, rfl⟩ | ⟨rfl, rfl⟩ |
      ⟨rfl, rfl⟩ | ⟨rfl, rfl⟩ <;> rfl
  · intro h
    unfold letterEscape? at h
    split at h <;> cases h <;> decide

/-- The codes of a surrogate pair stand for one character. -/
theorem readString_pair {i j k l i' j' k' l' : Char} {high low : Nat}
    (hhigh : Text.ofHex? [i, j, k, l] = some high) (hh : isHigh high = true)
    (hlow : Text.ofHex? [i', j', k', l'] = some low) (hl : isLow low = true) (rest : List Char) :
    readString ('\\' :: 'u' :: i :: j :: k :: l :: '\\' :: 'u' :: i' :: j' :: k' :: l' :: rest) =
      prepend (ofPair high low) (readString rest) := by
  have hnot : isLow high = false := by
    simp only [isLow, isHigh, Bool.and_eq_true, decide_eq_true_eq, Bool.and_eq_false_iff,
      decide_eq_false_iff_not] at hh ⊢
    omega
  rw [readString, hhigh]
  simp only [hnot, hh, hlow, hl, Bool.false_eq_true, if_false, if_true]

theorem Escaped.readString (h : Escaped c w) (rest : List Char) :
    readString (w ++ rest) = prepend c (readString rest) := by
  cases h with
  | self hquote hslash hplain => exact readString_self hquote hslash hplain rest
  | letter he => exact readString_letter (mem_letters_iff.1 he) rest
  | code hcode =>
    obtain ⟨hlow, hhigh⟩ := not_isSurrogate_toNat c
    refine (readString_code hcode hlow hhigh rest).trans ?_
    rw [Char.ofNat_toNat]
  | @pair _ _ _ _ _ _ _ _ high low hhigh h₁ h₂ hlow h₃ h₄ hc =>
    have hpair : ofPair high low = c := by
      rw [ofPair, ← hc, Char.ofNat_toNat]
    have hread := readString_pair hhigh (by simp [isHigh, h₁, h₂]) hlow (by simp [isLow, h₃, h₄]) rest
    rw [hpair] at hread
    exact hread

/-- Four hexadecimal digits are passed over, whether or not they stand for a character. -/
theorem skipString_code {i j k l : Char} {n : Nat} (h : Text.ofHex? [i, j, k, l] = some n)
    (rest : List Char) :
    skipString ('\\' :: 'u' :: i :: j :: k :: l :: rest) = skipString rest := by
  rw [skipString, h, Option.isSome_some, if_pos rfl]

theorem Escaped.skipString (h : Escaped c w) (rest : List Char) :
    skipString (w ++ rest) = skipString rest := by
  cases h with
  | self hquote hslash hplain =>
    have hc : ¬ (c.toNat < 0x20 ∨ c = '\\') := not_or.2 ⟨Nat.not_lt.2 hplain, hslash⟩
    rw [List.singleton_append, Json.skipString, if_neg hc]
    · exact hquote
    · exact fun _ _ _ _ _ h => absurd h hslash
    · exact fun _ _ h => absurd h hslash
  | @letter e he =>
    have hletter := mem_letters_iff.1 he
    have hu : e ≠ 'u' := by
      rintro rfl
      cases hletter
    show Json.skipString ('\\' :: e :: rest) = _
    rw [Json.skipString, hletter, Option.isSome_some, if_pos rfl]
    exact fun _ _ _ _ _ h => absurd h hu
  | code hcode => exact skipString_code hcode rest
  | pair hhigh _ _ hlow => exact (skipString_code hhigh _).trans (skipString_code hlow rest)

/-- **A string is read up to its closing quote.**  The induction is on the string. -/
theorem Body.readString (h : Body s w) (rest : List Char) :
    readString (w ++ rest) = .ok (s, rest) := by
  induction h with
  | close => rfl
  | char hc _ ih =>
    rw [List.append_assoc, hc.readString, ih]
    rfl

theorem Body.skipString (h : Body s w) (rest : List Char) : skipString (w ++ rest) = .ok rest := by
  induction h with
  | close => rfl
  | char hc _ ih => rw [List.append_assoc, hc.skipString, ih]

/-- Reading a string and passing over it end in the same place. -/
theorem Quoted.reads (h : Quoted s t) (rest : List Char) :
    ∃ cs, t ++ rest = '"' :: cs ∧ readString cs = .ok (s, rest) ∧ skipString cs = .ok rest := by
  obtain ⟨hw⟩ := h
  exact ⟨_, rfl, hw.readString rest, hw.skipString rest⟩

/-- The name of a member, with the blanks around it. -/
theorem Named.reads (h : Named s t) (rest : List Char) :
    ∃ cs tail, skipBlanks (t ++ rest) = '"' :: cs ∧ readString cs = .ok (s, tail) ∧
      skipString cs = .ok tail ∧ skipBlanks tail = skipBlanks rest := by
  obtain @⟨a, w, b, ha, hw, hb⟩ := h
  obtain ⟨cs, hcs, hread, hskip⟩ := hw.reads (b ++ rest)
  refine ⟨cs, b ++ rest, ?_, hread, hskip, skipBlanks_append hb rest⟩
  rw [List.append_assoc, skipBlanks_append ha, List.append_assoc, hcs,
    skipBlanks_cons_of_not_isBlank (by decide)]

/-- A character as it is printed. -/
theorem escaped_escapeChar (c : Char) : Escaped c (escapeChar c) := by
  rcases escapeChar_cases c with ⟨e, hc, he⟩ | ⟨hcode, hc⟩ | ⟨hquote, hslash, hplain, hc⟩
  · rw [hc]
    exact .letter (mem_letters_iff.2 he)
  · rw [hc]
    exact .code (Text.ofHex?_of_lt c.toNat (by omega))
  · rw [hc]
    exact .self hquote hslash hplain

/-- **Every string can be written**, as it is printed for instance. -/
theorem quoted_quote (s : List Char) : Quoted s (quote s) := by
  refine .intro (show Body s (s.flatMap escapeChar ++ ['"']) from ?_)
  induction s with
  | nil => exact .close
  | cons c s ih =>
    rw [List.flatMap_cons, List.append_assoc]
    exact .char (escaped_escapeChar c) ih

theorem named_quote (s : List Char) : Named s (quote s) := by
  have h := Named.intro (List.forall_mem_nil _) (quoted_quote s) (List.forall_mem_nil _)
  rwa [List.nil_append, List.append_nil] at h

/-! ## Reading numbers -/

variable {ds f e : List Char}

theorem Digits.readDigits (h : Digits ds) (hrest : ∀ c ∈ rest.head?, c.isDigit = false) :
    readDigits (ds ++ rest) = .ok (ds, rest) := by
  obtain ⟨hne, hds⟩ := h
  obtain ⟨htake, hdrop⟩ := span_digits hds hrest
  obtain ⟨d, ds, rfl⟩ := List.exists_cons_of_ne_nil hne
  have hhead : ((d :: ds) ++ rest).head?.any Char.isDigit = true := hds d List.mem_cons_self
  rw [Json.readDigits, if_pos hhead, htake, hdrop]

theorem Whole.readWhole (h : Whole w) (hrest : ∀ c ∈ rest.head?, c.isDigit = false) :
    readWhole (w ++ rest) = .ok (w, rest) := by
  cases h with
  | zero =>
    have hhead : ¬ rest.head?.any Char.isDigit = true := by
      rw [Option.any_eq_true]
      rintro ⟨c, hc, hdigit⟩
      exact Bool.eq_false_iff.1 (hrest c hc) hdigit
    rw [List.singleton_append, Json.readWhole, if_pos rfl, if_neg hhead]
  | digits hzero hds =>
    obtain ⟨hd, hds⟩ := List.forall_mem_cons.1 hds.2
    obtain ⟨htake, hdrop⟩ := span_digits hds hrest
    rw [List.cons_append, Json.readWhole, if_neg hzero, if_pos hd, htake, hdrop]

theorem Fraction.readFraction (h : Fraction f)
    (hrest : ∀ c ∈ rest.head?, c.isDigit = false ∧ c ≠ '.') :
    ∃ ds, readFraction (f ++ rest) = .ok (ds, rest) := by
  cases h with
  | none => exact ⟨[], readFraction_eq fun c hc => (hrest c hc).2⟩
  | digits hds => exact ⟨_, hds.readDigits fun c hc => (hrest c hc).1⟩

/-- Behind its letter and its sign, an exponent is read as digits. -/
theorem readExponent_cons {m : Char} {sign : List Char} (hm : m = 'e' ∨ m = 'E')
    (hsign : sign ∈ [[], ['+'], ['-']]) (hds : Digits ds) (rest : List Char) :
    ∃ value : List Char → Int, readExponent (m :: (sign ++ (ds ++ rest))) =
      (readDigits (ds ++ rest)).map fun p => (value p.1, p.2) := by
  obtain ⟨d, ds, rfl⟩ := List.exists_cons_of_ne_nil hds.1
  have hd : d.isDigit = true := hds.2 d List.mem_cons_self
  simp only [List.mem_cons, List.not_mem_nil, or_false] at hsign
  rcases hsign with rfl | rfl | rfl
  · refine ⟨fun ds => Text.ofDigits 10 ds, ?_⟩
    rw [readExponent.eq_def]
    simp only [hm, if_true, List.nil_append, List.cons_append]
    -- a digit is no sign, so it is the last row that matches
    split
    · next h =>
      obtain ⟨rfl, -⟩ := List.cons.inj h
      cases hd
    · next h =>
      obtain ⟨rfl, -⟩ := List.cons.inj h
      cases hd
    · rfl
  · refine ⟨fun ds => Text.ofDigits 10 ds, ?_⟩
    rcases hm with rfl | rfl <;> rfl
  · refine ⟨fun ds => -Text.ofDigits 10 ds, ?_⟩
    rcases hm with rfl | rfl <;> rfl

theorem Exponent.readExponent (h : Exponent e) (hrest : EndsNumber rest) :
    ∃ n, readExponent (e ++ rest) = .ok (n, rest) := by
  cases h with
  | none => exact ⟨0, readExponent_eq hrest⟩
  | @digits m sign ds hm hsign hds =>
    obtain ⟨value, hvalue⟩ := readExponent_cons hm hsign hds rest
    refine ⟨value ds, ?_⟩
    rw [List.cons_append, List.append_assoc, hvalue, hds.readDigits fun c hc => (hrest c hc).1]
    rfl

/-- No digit and no point stands where the exponent may begin. -/
theorem Exponent.head (h : Exponent e) (hrest : EndsNumber rest) :
    ∀ c ∈ (e ++ rest).head?, c.isDigit = false ∧ c ≠ '.' := by
  cases h with
  | none =>
    intro c hc
    obtain ⟨hdigit, hpoint, -⟩ := hrest c hc
    exact ⟨hdigit, hpoint⟩
  | digits hm _ _ =>
    intro c hc
    obtain rfl := Option.some.inj hc
    rcases hm with rfl | rfl <;> decide

/-- No digit stands where the point may. -/
theorem Fraction.head (h : Fraction f) (hrest : ∀ c ∈ rest.head?, c.isDigit = false) :
    ∀ c ∈ (f ++ rest).head?, c.isDigit = false := by
  cases h with
  | none => exact hrest
  | digits _ =>
    intro c hc
    obtain rfl := Option.some.inj hc
    decide

theorem Whole.exists_eq_cons (h : Whole w) : ∃ d ds, w = d :: ds ∧ d.isDigit = true := by
  cases h with
  | zero => exact ⟨_, _, rfl, rfl⟩
  | digits _ hds => exact ⟨_, _, rfl, hds.2 _ List.mem_cons_self⟩

/-- A number begins with a minus or a digit. -/
theorem Numeral.exists_eq_cons (h : Numeral t) :
    ∃ d ds, t = d :: ds ∧ (d = '-' ∨ d.isDigit = true) := by
  obtain ⟨hsign, hw, -, -⟩ := h
  obtain ⟨d, ds, rfl, hd⟩ := hw.exists_eq_cons
  simp only [List.mem_cons, List.not_mem_nil, or_false] at hsign
  rcases hsign with rfl | rfl
  · exact ⟨_, _, rfl, Or.inr hd⟩
  · exact ⟨_, _, rfl, Or.inl rfl⟩

/-- **A number is read up to its end**, one part after the other. -/
theorem Numeral.readNumber (h : Numeral t) (hrest : EndsNumber rest) :
    ∃ n, readNumber (t ++ rest) = .ok (n, rest) := by
  obtain @⟨sign, w, f, e, hsign, hw, hf, he⟩ := h
  have hbehind := he.head hrest
  obtain ⟨n, hn⟩ := he.readExponent hrest
  obtain ⟨ds, hds⟩ := hf.readFraction hbehind
  have hwhole := hw.readWhole (hf.head fun c hc => (hbehind c hc).1)
  have hread : (Json.readWhole (w ++ (f ++ (e ++ rest)))).bind (fun x =>
      (Json.readFraction x.2).bind fun y =>
        (Json.readExponent y.2).bind fun z => .ok ((⟨x.1, y.1, z.1⟩ : Text.Decimal), z.2)) =
      .ok (⟨w, ds, n⟩, rest) := by
    rw [hwhole]
    show (Json.readFraction _).bind _ = _
    rw [hds]
    show (Json.readExponent _).bind _ = _
    rw [hn]
    rfl
  refine ⟨⟨w, ds, n⟩, ?_⟩
  simp only [List.append_assoc]
  rw [← hread]
  simp only [List.mem_cons, List.not_mem_nil, or_false] at hsign
  rcases hsign with rfl | rfl
  · obtain ⟨d, us, rfl, hd⟩ := hw.exists_eq_cons
    rw [List.nil_append, List.cons_append, Json.readNumber]
    · rfl
    · rintro _ h
      obtain ⟨rfl, -⟩ := List.cons.inj h
      cases hd
  · rfl

/-! ## Passing over documents -/

variable {fuel : Nat} {ts : List (List Char)} {m : MemberText} {ms : List MemberText}

theorem skipBlanks_skipBlanks (cs : List Char) : skipBlanks (skipBlanks cs) = skipBlanks cs :=
  List.dropWhile_idempotent isBlank cs

theorem skipValue_skipBlanks (fuel : Nat) (cs : List Char) :
    skipValue fuel (skipBlanks cs) = skipValue fuel cs := by
  cases fuel with
  | zero => rfl
  | succ fuel => rw [skipValue, skipValue, skipBlanks_skipBlanks]

theorem skipElements_skipBlanks (fuel : Nat) (cs : List Char) :
    skipElements fuel (skipBlanks cs) = skipElements fuel cs := by
  cases fuel with
  | zero => rfl
  | succ fuel => rw [skipElements, skipElements, skipValue_skipBlanks]

theorem skipMembers_skipBlanks (fuel : Nat) (cs : List Char) :
    skipMembers fuel (skipBlanks cs) = skipMembers fuel cs := by
  cases fuel with
  | zero => rfl
  | succ fuel => rw [skipMembers, skipMembers, skipBlanks_skipBlanks]

/-- The text is passed over, whatever stands behind it, up to the blanks there. -/
def PassesOver (t : List Char) : Prop :=
  ∀ fuel rest, EndsNumber rest → t.length ≤ fuel →
    ∃ tail, skipValue fuel (t ++ rest) = .ok tail ∧ skipBlanks tail = skipBlanks rest

/-- It is enough that the reader stops right behind the text. -/
theorem PassesOver.of_eq {c : Char} {cs : List Char}
    (h : ∀ fuel rest, EndsNumber rest → cs.length ≤ fuel →
      skipValue (fuel + 1) (c :: (cs ++ rest)) = .ok rest) : PassesOver (c :: cs) := by
  rintro (_ | fuel) rest hrest hfuel
  · cases hfuel
  · exact ⟨rest, h fuel rest hrest (Nat.le_of_succ_le_succ hfuel), rfl⟩

/-- Blanks and then something else. -/
theorem Blank.skipBlanks_append_cons {a : List Char} (ha : Blank a) {c : Char}
    (hc : isBlank c = false) (cs : List Char) : skipBlanks (a ++ [c] ++ cs) = c :: cs := by
  rw [List.append_assoc, skipBlanks_append ha]
  exact skipBlanks_cons_of_not_isBlank hc cs

/-- Blanks behind a document do not belong to a number in it. -/
theorem Blank.endsNumber_append {b : List Char} (hb : Blank b) (hrest : EndsNumber rest) :
    EndsNumber (b ++ rest) := by
  cases b with
  | nil => exact hrest
  | cons c b => exact endsNumber_cons (notInNumber_of_isBlank (hb c List.mem_cons_self)) _

theorem PassesOver.blanks {a b : List Char} (ha : Blank a) (ht : PassesOver t) (hb : Blank b) :
    PassesOver (a ++ (t ++ b)) := by
  rintro fuel rest hrest hfuel
  simp only [List.length_append] at hfuel
  obtain ⟨tail, hread, htail⟩ := ht fuel (b ++ rest) (hb.endsNumber_append hrest) (by omega)
  refine ⟨tail, ?_, htail.trans (skipBlanks_append hb rest)⟩
  rw [List.append_assoc, List.append_assoc, ← skipValue_skipBlanks, skipBlanks_append ha,
    skipValue_skipBlanks, hread]

/-- The first sign of a number is not the first sign of anything else. -/
theorem ne_of_begins_numeral {d : Char} (hd : d = '-' ∨ d.isDigit = true) :
    isBlank d = false ∧ d ≠ '"' ∧ d ≠ '[' ∧ d ≠ ']' ∧ d ≠ '\x7b' := by
  rcases hd with rfl | hd
  · decide
  · refine ⟨isBlank_of_isDigit hd, ?_, ?_, ?_, ?_⟩ <;> rintro rfl <;> cases hd

theorem Numeral.passesOver (h : Numeral t) : PassesOver t := by
  obtain ⟨d, ds, rfl, hd⟩ := h.exists_eq_cons
  obtain ⟨hblank, hquote, hbracket, -, hbrace⟩ := ne_of_begins_numeral hd
  refine PassesOver.of_eq fun fuel rest hrest _ => ?_
  obtain ⟨n, hn⟩ := h.readNumber hrest
  rw [skipValue, skipBlanks_cons_of_not_isBlank hblank]
  simp only [hd, if_true]
  rw [← List.cons_append, hn]
  rfl

theorem Quoted.passesOver (h : Quoted s t) : PassesOver t := by
  obtain ⟨hw⟩ := h
  refine PassesOver.of_eq fun fuel rest _ _ => ?_
  rw [skipValue, skipBlanks_cons_of_not_isBlank (by decide)]
  exact hw.skipString rest

/-! ## Passing over arrays and objects -/

theorem further_cons_append (t : List Char) (ts : List (List Char)) (rest : List Char) :
    further (t :: ts) ++ rest = ',' :: (t ++ (further ts ++ rest)) := by
  rw [further, List.flatMap_cons, List.cons_append, List.cons_append, List.append_assoc, ← further]

/-- A document within another one is passed over up to the sign behind it. -/
theorem PassesOver.before {c : Char} (ht : PassesOver t) (hblank : isBlank c = false)
    (hnumber : c.isDigit = false ∧ c ≠ '.' ∧ c ≠ 'e' ∧ c ≠ 'E') (hfuel : t.length ≤ fuel)
    (more : List Char) :
    ∃ tail, skipValue fuel (t ++ c :: more) = .ok tail ∧ skipBlanks tail = c :: more := by
  obtain ⟨tail, hread, htail⟩ := ht fuel (c :: more) (endsNumber_cons hnumber more) hfuel
  rw [skipBlanks_cons_of_not_isBlank hblank] at htail
  exact ⟨tail, hread, htail⟩

theorem skipElements_last (ht : PassesOver t) (hfuel : t.length ≤ fuel) (rest : List Char) :
    skipElements (fuel + 1) (t ++ ']' :: rest) = .ok rest := by
  obtain ⟨tail, hread, htail⟩ :=
    ht.before (show isBlank ']' = false by decide) (by decide) hfuel rest
  simp only [skipElements, hread, Except.bind, htail]

theorem skipElements_comma (ht : PassesOver t) (hfuel : t.length ≤ fuel) (more : List Char) :
    skipElements (fuel + 1) (t ++ ',' :: more) = skipElements fuel more := by
  obtain ⟨tail, hread, htail⟩ :=
    ht.before (show isBlank ',' = false by decide) (by decide) hfuel more
  simp only [skipElements, hread, Except.bind, htail]

/-- **Passing over the elements of an array.**  The induction is on the elements behind the first. -/
theorem skipElements_further (h : ∀ u ∈ t :: ts, PassesOver u) (rest : List Char)
    (hfuel : (t ++ further ts).length < fuel) :
    skipElements fuel (t ++ (further ts ++ ']' :: rest)) = .ok rest := by
  induction ts generalizing t fuel with
  | nil =>
    obtain ⟨fuel, rfl⟩ := Nat.exists_eq_succ_of_ne_zero (Nat.ne_of_gt (Nat.zero_lt_of_lt hfuel))
    rw [List.length_append] at hfuel
    exact skipElements_last (h t List.mem_cons_self) (by omega) rest
  | cons u ts ih =>
    obtain ⟨fuel, rfl⟩ := Nat.exists_eq_succ_of_ne_zero (Nat.ne_of_gt (Nat.zero_lt_of_lt hfuel))
    have hlength := congrArg List.length (further_cons_append u ts [])
    simp only [List.length_append, List.length_cons, List.length_nil] at hfuel hlength
    rw [further_cons_append, skipElements_comma (h t List.mem_cons_self) (by omega)]
    exact ih (fun x hx => h x (List.mem_cons_of_mem t hx)) (by rw [List.length_append]; omega)

theorem skipMembers_last (hm : Named m.name m.nameText) (hv : PassesOver m.valueText)
    (hfuel : m.text.length ≤ fuel) (rest : List Char) :
    skipMembers (fuel + 1) (m.text ++ '\x7d' :: rest) = .ok rest := by
  simp only [MemberText.text, List.length_append, List.length_cons] at hfuel
  obtain ⟨tail, hread, htail⟩ := hv.before (show isBlank '\x7d' = false by decide) (by decide)
    (show m.valueText.length ≤ fuel by omega) rest
  obtain ⟨cs, behind, hcs, -, hskip, hbehind⟩ :=
    hm.reads (':' :: (m.valueText ++ '\x7d' :: rest))
  rw [skipBlanks_cons_of_not_isBlank (by decide)] at hbehind
  rw [MemberText.text, List.append_assoc, List.cons_append]
  simp only [skipMembers, hcs, hskip, Except.bind, hbehind, hread, htail]

theorem skipMembers_comma (hm : Named m.name m.nameText) (hv : PassesOver m.valueText)
    (hfuel : m.text.length ≤ fuel) (more : List Char) :
    skipMembers (fuel + 1) (m.text ++ ',' :: more) = skipMembers fuel more := by
  simp only [MemberText.text, List.length_append, List.length_cons] at hfuel
  obtain ⟨tail, hread, htail⟩ := hv.before (show isBlank ',' = false by decide) (by decide)
    (show m.valueText.length ≤ fuel by omega) more
  obtain ⟨cs, behind, hcs, -, hskip, hbehind⟩ := hm.reads (':' :: (m.valueText ++ ',' :: more))
  rw [skipBlanks_cons_of_not_isBlank (by decide)] at hbehind
  rw [MemberText.text, List.append_assoc, List.cons_append]
  simp only [skipMembers, hcs, hskip, Except.bind, hbehind, hread, htail]

/-- **Passing over the members of an object.**  The induction is on the members behind the first. -/
theorem skipMembers_further (hnames : ∀ n ∈ m :: ms, Named n.name n.nameText)
    (hvalues : ∀ n ∈ m :: ms, PassesOver n.valueText) (rest : List Char)
    (hfuel : (m.text ++ further (ms.map MemberText.text)).length < fuel) :
    skipMembers fuel (m.text ++ (further (ms.map MemberText.text) ++ '\x7d' :: rest)) =
      .ok rest := by
  induction ms generalizing m fuel with
  | nil =>
    obtain ⟨fuel, rfl⟩ := Nat.exists_eq_succ_of_ne_zero (Nat.ne_of_gt (Nat.zero_lt_of_lt hfuel))
    rw [List.length_append] at hfuel
    exact skipMembers_last (hnames m List.mem_cons_self) (hvalues m List.mem_cons_self)
      (by omega) rest
  | cons n ms ih =>
    obtain ⟨fuel, rfl⟩ := Nat.exists_eq_succ_of_ne_zero (Nat.ne_of_gt (Nat.zero_lt_of_lt hfuel))
    have hlength := congrArg List.length (further_cons_append n.text (ms.map MemberText.text) [])
    simp only [List.map_cons, List.length_append, List.length_cons, List.length_nil]
      at hfuel hlength
    rw [List.map_cons, further_cons_append, skipMembers_comma (hnames m List.mem_cons_self)
      (hvalues m List.mem_cons_self) (by omega)]
    exact ih (fun x hx => hnames x (List.mem_cons_of_mem m hx))
      (fun x hx => hvalues x (List.mem_cons_of_mem m hx)) (by rw [List.length_append]; omega)

/-- A document does not begin as an array ends. -/
theorem Spells.exists_skipBlanks_eq (h : Spells v t) (rest : List Char) :
    ∃ c cs, skipBlanks (t ++ rest) = c :: cs ∧ c ≠ ']' := by
  induction h generalizing rest with
  | null => exact ⟨_, _, rfl, by decide⟩
  | true => exact ⟨_, _, rfl, by decide⟩
  | false => exact ⟨_, _, rfl, by decide⟩
  | number h =>
    obtain ⟨d, ds, rfl, hd⟩ := h.exists_eq_cons
    obtain ⟨hblank, -, -, hend, -⟩ := ne_of_begins_numeral hd
    exact ⟨d, _, skipBlanks_cons_of_not_isBlank hblank _, hend⟩
  | string h =>
    obtain ⟨hw⟩ := h
    exact ⟨_, _, rfl, by decide⟩
  | emptyArray => exact ⟨_, _, rfl, by decide⟩
  | array => exact ⟨_, _, rfl, by decide⟩
  | emptyObject => exact ⟨_, _, rfl, by decide⟩
  | object => exact ⟨_, _, rfl, by decide⟩
  | @blanks _ _ _ b ha _ _ ih =>
    obtain ⟨c, cs, hcs, hend⟩ := ih (b ++ rest)
    refine ⟨c, cs, ?_, hend⟩
    rw [List.append_assoc, List.append_assoc, skipBlanks_append ha, hcs]

/-- An array that does not end at once. -/
theorem skipValue_bracket {c : Char} {cs cs' : List Char} (hcs : skipBlanks cs = c :: cs')
    (hc : c ≠ ']') (fuel : Nat) : skipValue (fuel + 1) ('[' :: cs) = skipElements fuel cs := by
  rw [skipValue, skipBlanks_cons_of_not_isBlank (by decide)]
  simp only
  split
  · next h => exact absurd (List.cons.inj (hcs.symm.trans h)).1 hc
  · exact skipElements_skipBlanks fuel cs

theorem passesOver_emptyArray {a : List Char} (ha : Blank a) : PassesOver ('[' :: (a ++ [']'])) := by
  refine PassesOver.of_eq fun fuel rest _ _ => ?_
  have hskip := ha.skipBlanks_append_cons (show isBlank ']' = false by decide) rest
  rw [skipValue, skipBlanks_cons_of_not_isBlank (by decide)]
  simp only [hskip]

theorem passesOver_array (ht : Spells v t) (h : ∀ u ∈ t :: ts, PassesOver u) :
    PassesOver ('[' :: (t ++ (further ts ++ [']']))) := by
  refine PassesOver.of_eq fun fuel rest _ hfuel => ?_
  simp only [List.append_assoc, List.singleton_append]
  obtain ⟨c, cs, hcs, hc⟩ := ht.exists_skipBlanks_eq (further ts ++ ']' :: rest)
  rw [skipValue_bracket hcs hc]
  refine skipElements_further h rest ?_
  simp only [List.length_append, List.length_cons] at hfuel ⊢
  omega

theorem passesOver_emptyObject {a : List Char} (ha : Blank a) :
    PassesOver ('\x7b' :: (a ++ ['\x7d'])) := by
  refine PassesOver.of_eq fun fuel rest _ _ => ?_
  have hskip := ha.skipBlanks_append_cons (show isBlank '\x7d' = false by decide) rest
  rw [skipValue, skipBlanks_cons_of_not_isBlank (by decide)]
  simp only [hskip]

/-- An object that does not end at once. -/
theorem skipValue_brace {cs cs' : List Char} (hcs : skipBlanks cs = '"' :: cs') (fuel : Nat) :
    skipValue (fuel + 1) ('\x7b' :: cs) = skipMembers fuel cs := by
  rw [skipValue, skipBlanks_cons_of_not_isBlank (by decide), ← skipMembers_skipBlanks, hcs]
  simp only [hcs]
  rfl

theorem passesOver_object (hnames : ∀ n ∈ m :: ms, Named n.name n.nameText)
    (hvalues : ∀ n ∈ m :: ms, PassesOver n.valueText) :
    PassesOver ('\x7b' :: (m.text ++ (further (ms.map MemberText.text) ++ ['\x7d']))) := by
  refine PassesOver.of_eq fun fuel rest _ hfuel => ?_
  obtain ⟨cs, tail, hcs, -⟩ := (hnames m List.mem_cons_self).reads
    (':' :: (m.valueText ++ (further (ms.map MemberText.text) ++ '\x7d' :: rest)))
  simp only [List.append_assoc, List.singleton_append]
  rw [skipValue_brace (by rw [MemberText.text, List.append_assoc]; exact hcs)]
  refine skipMembers_further hnames hvalues rest ?_
  simp only [List.length_append, List.length_cons] at hfuel ⊢
  omega

/-- **Every document is passed over**, whatever it is.  The induction is on how it is spelled. -/
theorem Spells.passesOver (h : Spells v t) : PassesOver t := by
  induction h with
  | null => exact PassesOver.of_eq fun _ _ _ _ => rfl
  | true => exact PassesOver.of_eq fun _ _ _ _ => rfl
  | false => exact PassesOver.of_eq fun _ _ _ _ => rfl
  | number h => exact h.passesOver
  | string h => exact h.passesOver
  | emptyArray ha => exact passesOver_emptyArray ha
  | @array p ps h ih =>
    refine passesOver_array (h p List.mem_cons_self) ?_
    rw [← List.map_cons]
    exact List.forall_mem_map.2 ih
  | emptyObject ha => exact passesOver_emptyObject ha
  | object hnames _ ih => exact passesOver_object hnames ih
  | blanks ha _ hb ih => exact ih.blanks ha hb

/-! ## Asking for a string -/

/-- The string that a document is, if it is one. -/
def Value.string? : Value → Option (List Char)
  | .string s => some s
  | _ => none

theorem Value.string?_eq_some_iff : v.string? = some s ↔ v = .string s := by
  cases v <;> simp [string?]

theorem expectString_skipBlanks (cs : List Char) : expectString (skipBlanks cs) = expectString cs := by
  rw [expectString, expectString, skipBlanks_skipBlanks]

/-- **Where a string is asked for, one is read**, and nothing else is.  The induction is on how the
document is spelled. -/
theorem Spells.expectString (h : Spells v t) (rest : List Char) :
    ∃ tail, skipBlanks tail = skipBlanks rest ∧
      (expectString (t ++ rest)).toOption = v.string?.map fun s => (s, tail) := by
  induction h generalizing rest with
  | null => exact ⟨rest, rfl, rfl⟩
  | true => exact ⟨rest, rfl, rfl⟩
  | false => exact ⟨rest, rfl, rfl⟩
  | number h =>
    obtain ⟨d, ds, rfl, hd⟩ := h.exists_eq_cons
    obtain ⟨hblank, hquote, -⟩ := ne_of_begins_numeral hd
    refine ⟨rest, rfl, ?_⟩
    rw [List.cons_append, Json.expectString, skipBlanks_cons_of_not_isBlank hblank]
    split
    · next h => exact absurd (List.cons.inj h).1 hquote
    · rfl
  | string h =>
    obtain ⟨hw⟩ := h
    refine ⟨rest, rfl, ?_⟩
    rw [List.cons_append, Json.expectString, skipBlanks_cons_of_not_isBlank (by decide)]
    simp only [hw.readString]
    rfl
  | emptyArray => exact ⟨rest, rfl, rfl⟩
  | array => exact ⟨rest, rfl, rfl⟩
  | emptyObject => exact ⟨rest, rfl, rfl⟩
  | object => exact ⟨rest, rfl, rfl⟩
  | @blanks v a t b ha _ hb ih =>
    obtain ⟨tail, htail, hread⟩ := ih (b ++ rest)
    refine ⟨tail, htail.trans (skipBlanks_append hb rest), ?_⟩
    rw [List.append_assoc, List.append_assoc, ← expectString_skipBlanks, skipBlanks_append ha,
      expectString_skipBlanks, hread]

end Json
end VarStore
