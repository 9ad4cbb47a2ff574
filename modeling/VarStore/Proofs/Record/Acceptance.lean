import VarStore.Proofs.Json.Grammar
import VarStore.Proofs.Record.RoundTrip

/-!
# Which documents are records

A record is read from a text in one pass, and the document that the text spells is never built.  Here is
what the pass comes to, said about the document (`Shaped`): an object in which each of the three names
occurs exactly once, and with a string, whatever else is in it and wherever it stands; or an array of
exactly three strings.  Names are compared after their escapes have been read, and what does not belong to
the record may be any document, as often as you like.

The pass can fail in many ways, and in which of them depends on what comes first.  Whether it fails does
not.  So failures are told apart no further (`Except.toOption`), and what is left of reading an object is
a fold over its members (`Partial.note?`), in which the blanks and the spelling do not occur any more.
The fold is then taken apart by name: it succeeds just if under each name there is at most one member, and
a string (`foldlM_note?_eq_some_iff`).

* `toOption_readMembers`, `toOption_readArray`, `toOption_ofJson`: reading as a function of the document.
* `record?_eq_some_iff`: the function and the shape.
-/

namespace VarStore
namespace Record

open Json (Blank Named Spells MemberText further skipBlanks)

/-! ## The shape of a record -/

/-- Exactly one member of the object has this name, and its value is the string. -/
def Once (ms : List (List Char × Json.Value)) (name s : String) : Prop :=
  ms.filter (fun m => m.1 = name.toList) = [(name.toList, .ofText s)]

/-- **The document has the shape of a record**, and its strings are those of the record. -/
inductive Shaped (r : Record) : Json.Value → Prop
  | object {ms : List (List Char × Json.Value)} : Once ms "collection" r.collection →
    Once ms "key" r.key → Once ms "value" r.value → Shaped r (.object ms)
  | array : Shaped r (.array [.ofText r.collection, .ofText r.key, .ofText r.value])

/-! ## Reading a record from a document -/

/-- Note a member of a document: one of the three at most once, and only a string; any other at all. -/
def Partial.note? (p : Partial) (m : List Char × Json.Value) : Option Partial :=
  match Member.named? m.1 with
  | none => some p
  | some i => if (p.get i).isSome then none else m.2.string?.map fun s => p.set s i

theorem Partial.note?_unknown {name : List Char} (h : Member.named? name = none) (p : Partial)
    (v : Json.Value) : p.note? (name, v) = some p := by
  rw [note?, h]

theorem Partial.note?_named {name : List Char} {i : Member} (h : Member.named? name = some i)
    (p : Partial) (v : Json.Value) :
    p.note? (name, v) =
      if (p.get i).isSome then none else v.string?.map fun s => p.set s i := by
  rw [note?, h]

/-- The record that a document is, if it is one. -/
def record? : Json.Value → Option Record
  | .object ms => (ms.foldlM Partial.note? .start).bind Partial.finish?
  | .array [c, k, v] => c.string?.bind fun c => k.string?.bind fun k => v.string?.bind fun v =>
    some ⟨String.ofList c, String.ofList k, String.ofList v⟩
  | _ => none

/-! ## Reading and passing over as functions of the document -/

variable {m : MemberText} {ms : List MemberText} {p : Partial} {fuel : Nat} {rest tail t : List Char}
  {v : Json.Value}

/-- One step after another, with the failures not told apart. -/
theorem toOption_bind {α β : Type} (x : Except Json.Fault α) (f : α → Except Json.Fault β) :
    (x.bind f).toOption = x.toOption.bind fun a => (f a).toOption := by
  cases x <;> rfl

theorem toOption_map {α β : Type} (x : Except Json.Fault α) (f : α → β) :
    (x.map f).toOption = x.toOption.map f := by
  cases x <;> rfl

/-- Behind a member there is no sign that belongs to a number. -/
theorem endsNumber_further (ts : List (List Char)) (rest : List Char) :
    Json.EndsNumber (further ts ++ '\x7d' :: rest) := by
  cases ts with
  | nil => exact Json.endsNumber_cons (by decide) rest
  | cons t ts =>
    rw [Json.further_cons_append]
    exact Json.endsNumber_cons (by decide) _

theorem toOption_endOfText (r : Record) (h : skipBlanks rest = []) :
    (endOfText r rest).toOption = some r := by
  rw [endOfText, h]
  rfl

theorem toOption_finishObject (p : Partial) (h : skipBlanks rest = []) :
    (finishObject p rest).toOption = p.finish? := by
  rw [finishObject]
  cases p.finish? with
  | none => rfl
  | some r => exact toOption_endOfText r h

section Member

variable {cs behind more name : List Char} {i : Member}

/-- Another member is passed over. -/
theorem readMember_unknown (hread : Json.readString cs = .ok (name, behind))
    (hbehind : skipBlanks behind = ':' :: more) (hname : Member.named? name = none) :
    readMember fuel p ('"' :: cs) = (Json.skipValue fuel more).map fun rest => (p, rest) := by
  rw [readMember, hread]
  show (if _ then _ else _) = _
  rw [hname, Option.any_none, if_neg Bool.false_ne_true, hbehind]
  rfl

/-- A member that is there for the second time is refused. -/
theorem readMember_repeated (hread : Json.readString cs = .ok (name, behind))
    (hname : Member.named? name = some i) (hi : (p.get i).isSome = true) :
    readMember fuel p ('"' :: cs) = .error .unexpected := by
  rw [readMember, hread]
  show (if _ then _ else _) = _
  rw [hname, Option.any_some, if_pos hi]

/-- A member that is there for the first time has to be a string. -/
theorem readMember_named (hread : Json.readString cs = .ok (name, behind))
    (hbehind : skipBlanks behind = ':' :: more) (hname : Member.named? name = some i)
    (hi : ¬ (p.get i).isSome = true) :
    readMember fuel p ('"' :: cs) = (Json.expectString more).map fun q => (p.set q.1 i, q.2) := by
  rw [readMember, hread]
  show (if _ then _ else _) = _
  rw [hname, Option.any_some, if_neg hi, hbehind]
  rfl

end Member

/-- **Reading a member** notes it, and ends where the member does. -/
theorem toOption_readMember (hname : Named m.name m.nameText) (hvalue : Spells m.value m.valueText)
    (hrest : Json.EndsNumber rest) (hfuel : m.valueText.length ≤ fuel) (p : Partial) :
    ∃ tail, skipBlanks tail = skipBlanks rest ∧
      (readMember fuel p (skipBlanks (m.text ++ rest))).toOption =
        (p.note? m.member).map fun q => (q, tail) := by
  obtain ⟨cs, behind, hcs, hread, -, hbehind⟩ := hname.reads (':' :: (m.valueText ++ rest))
  rw [Json.skipBlanks_cons_of_not_isBlank (by decide)] at hbehind
  rw [MemberText.text, List.append_assoc, List.cons_append, hcs, MemberText.member]
  cases hnamed : Member.named? m.name with
  | none =>
    obtain ⟨tail, hskip, htail⟩ := hvalue.passesOver fuel rest hrest hfuel
    refine ⟨tail, htail, ?_⟩
    rw [readMember_unknown hread hbehind hnamed, hskip, Partial.note?_unknown hnamed]
    rfl
  | some i =>
    obtain ⟨tail, htail, hstring⟩ := hvalue.expectString rest
    refine ⟨tail, htail, ?_⟩
    rw [Partial.note?_named hnamed]
    by_cases hi : (p.get i).isSome = true
    · rw [readMember_repeated hread hnamed hi, if_pos hi]
      rfl
    · rw [readMember_named hread hbehind hnamed hi, if_neg hi, toOption_map, hstring,
        Option.map_map, Option.map_map]
      rfl

/-- Reading a member and then the further ones, if these are noted one after the other. -/
theorem toOption_readMember_bind (hname : Named m.name m.nameText)
    (hvalue : Spells m.value m.valueText) (hfuel : m.valueText.length ≤ fuel)
    (hnext : ∀ q tail,
      skipBlanks tail = skipBlanks (further (ms.map MemberText.text) ++ '\x7d' :: rest) →
      (readMembers fuel q tail).toOption =
        ((ms.map MemberText.member).foldlM Partial.note? q).bind Partial.finish?) (p : Partial) :
    ((readMember fuel p
        (skipBlanks (m.text ++ (further (ms.map MemberText.text) ++ '\x7d' :: rest)))).bind
          fun q => readMembers fuel q.1 q.2).toOption =
      (((m :: ms).map MemberText.member).foldlM Partial.note? p).bind Partial.finish? := by
  obtain ⟨tail, htail, hmember⟩ := toOption_readMember hname hvalue
    (endsNumber_further (ms.map MemberText.text) rest) hfuel p
  rw [toOption_bind, hmember, Option.bind_map, List.map_cons, List.foldlM_cons,
    Option.bind_eq_bind, Option.bind_assoc]
  exact congrArg _ (funext fun q => hnext q tail htail)

/-- **Reading the further members of an object** notes them one after the other.  The induction is on the
members; what was read before ends in front of them, up to blanks. -/
theorem toOption_readMembers (hnames : ∀ n ∈ ms, Named n.name n.nameText)
    (hvalues : ∀ n ∈ ms, Spells n.value n.valueText) (hrest : skipBlanks rest = [])
    (htail : skipBlanks tail =
      skipBlanks (further (ms.map MemberText.text) ++ '\x7d' :: rest))
    (hfuel : (further (ms.map MemberText.text)).length < fuel) (p : Partial) :
    (readMembers fuel p tail).toOption =
      ((ms.map MemberText.member).foldlM Partial.note? p).bind Partial.finish? := by
  induction ms generalizing p tail fuel with
  | nil =>
    obtain ⟨fuel, rfl⟩ := Nat.exists_eq_succ_of_ne_zero (Nat.ne_of_gt hfuel)
    have hend : skipBlanks tail = '\x7d' :: rest :=
      htail.trans (Json.skipBlanks_cons_of_not_isBlank (by decide) rest)
    rw [readMembers, hend]
    exact toOption_finishObject p hrest
  | cons m ms ih =>
    obtain ⟨fuel, rfl⟩ := Nat.exists_eq_succ_of_ne_zero (Nat.ne_of_gt (Nat.zero_lt_of_lt hfuel))
    obtain ⟨hname, hnames⟩ := List.forall_mem_cons.1 hnames
    obtain ⟨hvalue, hvalues⟩ := List.forall_mem_cons.1 hvalues
    have hlength := congrArg List.length
      (Json.further_cons_append m.text (ms.map MemberText.text) [])
    simp only [List.map_cons, List.append_nil, List.length_append, List.length_cons,
      MemberText.text] at hfuel hlength
    rw [List.map_cons, Json.further_cons_append,
      Json.skipBlanks_cons_of_not_isBlank (by decide)] at htail
    rw [readMembers, htail]
    exact toOption_readMember_bind hname hvalue (by omega)
      (fun q _ htail => ih hnames hvalues htail (by omega) q) p

/-- Reading an object that has members. -/
theorem toOption_readObject (hnames : ∀ n ∈ m :: ms, Named n.name n.nameText)
    (hvalues : ∀ n ∈ m :: ms, Spells n.value n.valueText) (hrest : skipBlanks rest = [])
    (hfuel : (m.text ++ further (ms.map MemberText.text)).length < fuel) :
    (readObject fuel (m.text ++ (further (ms.map MemberText.text) ++ '\x7d' :: rest))).toOption =
      record? (.object ((m :: ms).map MemberText.member)) := by
  simp only [List.length_append, MemberText.text, List.length_cons] at hfuel
  obtain ⟨hname, hnames⟩ := List.forall_mem_cons.1 hnames
  obtain ⟨hvalue, hvalues⟩ := List.forall_mem_cons.1 hvalues
  have hread := toOption_readMember_bind hname hvalue (show m.valueText.length ≤ fuel by omega)
    (fun q _ htail => toOption_readMembers hnames hvalues hrest htail (by omega) q) .start
  -- the object does not end at once, since a name begins with a quote
  obtain ⟨cs, -, hcs, -⟩ :=
    hname.reads (':' :: (m.valueText ++ (further (ms.map MemberText.text) ++ '\x7d' :: rest)))
  have hfirst : skipBlanks
      (m.text ++ (further (ms.map MemberText.text) ++ '\x7d' :: rest)) = '"' :: cs := by
    rw [MemberText.text, List.append_assoc]
    exact hcs
  rw [hfirst] at hread
  rw [readObject, hfirst]
  exact hread

/-! ## Reading an array -/

/-- The end of the array, behind its third string. -/
def finishArray (r : Record) (cs : List Char) : Except Json.Fault Record :=
  match skipBlanks cs with
  | ']' :: rest => endOfText r rest
  | _ => .error .malformed

/-- An array that does not end at once is read as three strings and its end. -/
theorem toOption_readArray_of_ne {c : Char} {cs cs' : List Char} (hcs : skipBlanks cs = c :: cs')
    (hc : c ≠ ']') :
    (readArray cs).toOption = (Json.expectString cs).toOption.bind fun c =>
      (nextString c.2).toOption.bind fun k => (nextString k.2).toOption.bind fun v =>
        (finishArray ⟨String.ofList c.1, String.ofList k.1, String.ofList v.1⟩ v.2).toOption := by
  have hread : readArray cs = (Json.expectString cs).bind fun c =>
      (nextString c.2).bind fun k => (nextString k.2).bind fun v =>
        finishArray ⟨String.ofList c.1, String.ofList k.1, String.ofList v.1⟩ v.2 := by
    rw [← Json.expectString_skipBlanks, readArray, hcs]
    split
    · next h => exact absurd (List.cons.inj h).1 hc
    · rfl
  simp only [hread, toOption_bind]

/-- In front of the elements that are left there is a comma, or the array ends. -/
theorem skipBlanks_further_nil (rest : List Char) :
    skipBlanks (further [] ++ ']' :: rest) = ']' :: rest :=
  Json.skipBlanks_cons_of_not_isBlank (by decide) rest

theorem skipBlanks_further_cons (t : List Char) (ts : List (List Char)) (rest : List Char) :
    skipBlanks (further (t :: ts) ++ rest) = ',' :: (t ++ (further ts ++ rest)) := by
  rw [Json.further_cons_append, Json.skipBlanks_cons_of_not_isBlank (by decide)]

variable {ts : List (List Char)} {r : Record}

/-- There is no further string if the array has ended. -/
theorem toOption_nextString_nil (htail : skipBlanks tail = skipBlanks (further [] ++ ']' :: rest)) :
    (nextString tail).toOption = none := by
  rw [nextString, htail, skipBlanks_further_nil]
  rfl

/-- A further string, behind its comma. -/
theorem toOption_nextString_cons (h : Spells v t)
    (htail : skipBlanks tail = skipBlanks (further (t :: ts) ++ rest)) :
    ∃ tail', skipBlanks tail' = skipBlanks (further ts ++ rest) ∧
      (nextString tail).toOption = v.string?.map fun s => (s, tail') := by
  obtain ⟨c, cs, hcs, hc⟩ := h.exists_skipBlanks_eq (further ts ++ rest)
  obtain ⟨tail', htail', hread⟩ := h.expectString (further ts ++ rest)
  refine ⟨tail', htail', ?_⟩
  rw [← hread, ← Json.expectString_skipBlanks, nextString, htail, skipBlanks_further_cons]
  simp only [hcs]
  split
  · next h => exact absurd (List.cons.inj h).1 hc
  · rfl

theorem toOption_finishArray_nil (hrest : skipBlanks rest = [])
    (htail : skipBlanks tail = skipBlanks (further [] ++ ']' :: rest)) :
    (finishArray r tail).toOption = some r := by
  rw [finishArray, htail, skipBlanks_further_nil]
  exact toOption_endOfText r hrest

theorem toOption_finishArray_cons
    (htail : skipBlanks tail = skipBlanks (further (t :: ts) ++ rest)) :
    (finishArray r tail).toOption = none := by
  rw [finishArray, htail, skipBlanks_further_cons]
  rfl

/-- **Reading an array** takes three strings, and fails if there are fewer elements or more. -/
theorem toOption_readArray {p : Json.Value × List Char} {ps : List (Json.Value × List Char)}
    (h : ∀ q ∈ p :: ps, Spells q.1 q.2) (hrest : skipBlanks rest = []) :
    (readArray (p.2 ++ (further (ps.map (·.2)) ++ ']' :: rest))).toOption =
      record? (.array ((p :: ps).map (·.1))) := by
  obtain ⟨hp, hps⟩ := List.forall_mem_cons.1 h
  obtain ⟨c, cs, hcs, hc⟩ := hp.exists_skipBlanks_eq (further (ps.map (·.2)) ++ ']' :: rest)
  obtain ⟨tail, htail, hfirst⟩ := hp.expectString (further (ps.map (·.2)) ++ ']' :: rest)
  rw [toOption_readArray_of_ne hcs hc, hfirst, Option.bind_map]
  -- the reader meets the end of the array after as many strings as there are elements
  rcases ps with _ | ⟨q, ps⟩
  · have hnone := toOption_nextString_nil htail
    simp only [Function.comp_def, hnone, Option.bind_none, Option.bind_fun_none]
    rfl
  obtain ⟨hq, hps⟩ := List.forall_mem_cons.1 hps
  obtain ⟨tail', htail', hsecond⟩ := toOption_nextString_cons hq htail
  rcases ps with _ | ⟨q', ps⟩
  · have hnone := toOption_nextString_nil htail'
    simp only [Function.comp_def, hsecond, Option.bind_map, hnone, Option.bind_none,
      Option.bind_fun_none]
    rfl
  obtain ⟨hq', -⟩ := List.forall_mem_cons.1 hps
  obtain ⟨tail'', htail'', hthird⟩ := toOption_nextString_cons hq' htail'
  rcases ps with _ | ⟨q'', ps⟩
  · simp only [Function.comp_def, hsecond, hthird, Option.bind_map,
      toOption_finishArray_nil hrest htail'']
    rfl
  · simp only [Function.comp_def, hsecond, hthird, Option.bind_map,
      toOption_finishArray_cons htail'', Option.bind_fun_none]
    rfl

/-! ## Reading a document -/

theorem ofJson_append {a : List Char} (ha : Blank a) (cs : List Char) :
    ofJson (String.ofList (a ++ cs)) = ofJson (String.ofList cs) := by
  rw [ofJson, ofJson, String.toList_ofList, String.toList_ofList, Json.skipBlanks_append ha]

theorem ofJson_bracket (cs : List Char) : ofJson (String.ofList ('[' :: cs)) = readArray cs := by
  rw [ofJson, String.toList_ofList, Json.skipBlanks_cons_of_not_isBlank (by decide)]
  rfl

theorem ofJson_brace (cs : List Char) :
    ofJson (String.ofList ('\x7b' :: cs)) = readObject (cs.length + 1) cs := by
  rw [ofJson, String.toList_ofList, Json.skipBlanks_cons_of_not_isBlank (by decide)]
  rfl

/-- **Reading a record is a function of the document**: how it is spelled does not matter.  The induction
is on the spelling, but only of the blanks around the document; the parts of the document were read
above. -/
theorem toOption_ofJson (h : Spells v t) (hrest : Blank rest) :
    (ofJson (String.ofList (t ++ rest))).toOption = record? v := by
  induction h generalizing rest with
  | null => rw [ofJson, String.toList_ofList]; rfl
  | true => rw [ofJson, String.toList_ofList]; rfl
  | false => rw [ofJson, String.toList_ofList]; rfl
  | number h =>
    obtain ⟨d, ds, rfl, hd⟩ := h.exists_eq_cons
    obtain ⟨hblank, hquote, hbracket, -, hbrace⟩ := Json.ne_of_begins_numeral hd
    rw [ofJson, String.toList_ofList, List.cons_append,
      Json.skipBlanks_cons_of_not_isBlank hblank]
    split
    · next h => exact absurd (List.cons.inj h).1 hbrace
    · next h => exact absurd (List.cons.inj h).1 hbracket
    · next h => exact absurd (List.cons.inj h).1 hquote
    · rfl
  | string h =>
    obtain ⟨cs, hcs, hread, -⟩ := h.reads rest
    rw [ofJson, String.toList_ofList, hcs, Json.skipBlanks_cons_of_not_isBlank (by decide)]
    simp only [hread]
    rfl
  | emptyArray ha =>
    rw [List.cons_append, ofJson_bracket, readArray, ha.skipBlanks_append_cons (by decide)]
    rfl
  | array h =>
    rw [List.cons_append, ofJson_bracket, List.append_assoc, List.append_assoc]
    exact toOption_readArray h (Json.skipBlanks_eq_nil hrest)
  | emptyObject ha =>
    rw [List.cons_append, ofJson_brace, readObject, ha.skipBlanks_append_cons (by decide)]
    rfl
  | object hnames hvalues =>
    rw [List.cons_append, ofJson_brace, List.append_assoc, List.append_assoc]
    refine toOption_readObject hnames hvalues (Json.skipBlanks_eq_nil hrest) ?_
    simp only [List.length_append, List.length_cons]
    omega
  | blanks ha _ hb ih =>
    rw [List.append_assoc, List.append_assoc, ofJson_append ha]
    exact ih (List.forall_mem_append.2 ⟨hb, hrest⟩)

/-! ## The fold, name by name -/

/-- The members of the object that have the name of a member of a record. -/
def under (i : Member) (ms : List (List Char × Json.Value)) : List (List Char × Json.Value) :=
  ms.filter fun m => m.1 = i.label

/-- What the members of that name come to: there is none, and nothing changes, or there is one where
nothing was before, and it is a string. -/
def Noted (i : Member) (ms : List (List Char × Json.Value)) (before after : Option (List Char)) :
    Prop :=
  (under i ms = [] ∧ after = before) ∨
    (before = none ∧ ∃ s, under i ms = [(i.label, .string s)] ∧ after = some s)

variable {i j : Member} {xs : List (List Char × Json.Value)} {name s : List Char}
  {before after : Option (List Char)} {q : Partial}

theorem noted_nil : Noted i [] before after ↔ after = before := by
  constructor
  · rintro (⟨-, h⟩ | ⟨-, s, h, -⟩)
    · exact h
    · cases h
  · exact fun h => Or.inl ⟨rfl, h⟩

/-- A member of another name does not count. -/
theorem noted_cons_of_ne (h : name ≠ i.label) :
    Noted i ((name, v) :: xs) before after ↔ Noted i xs before after := by
  have hunder : under i ((name, v) :: xs) = under i xs :=
    List.filter_cons_of_neg (by simpa using h)
  rw [Noted, Noted, hunder]

/-- A member of the name has to be the first one, and a string. -/
theorem noted_cons_label :
    Noted i ((i.label, v) :: xs) before after ↔
      before = none ∧ ∃ s, v = .string s ∧ Noted i xs (some s) after := by
  have hunder : under i ((i.label, v) :: xs) = (i.label, v) :: under i xs :=
    List.filter_cons_of_pos (by simp)
  constructor
  · rintro (⟨h, -⟩ | ⟨hbefore, s, h, hafter⟩)
    · rw [hunder] at h
      cases h
    · rw [hunder] at h
      obtain ⟨hv, hrest⟩ := List.cons.inj h
      exact ⟨hbefore, s, (Prod.mk.inj hv).2, Or.inl ⟨hrest, hafter⟩⟩
  · rintro ⟨hbefore, s, rfl, ⟨hrest, hafter⟩ | ⟨hnone, -⟩⟩
    · exact Or.inr ⟨hbefore, s, by rw [hunder, hrest], hafter⟩
    · cases hnone

theorem Member.eq_label_of_named? (h : Member.named? name = some i) : name = i.label := by
  rw [Member.named?] at h
  split_ifs at h with hcollection hkey hvalue
  · cases h
    exact hcollection
  · cases h
    exact hkey
  · cases h
    exact hvalue

theorem Member.label_ne_label (h : i ≠ j) : i.label ≠ j.label := by
  intro hlabel
  have hnamed := i.named?_label
  rw [hlabel, j.named?_label] at hnamed
  exact h (Option.some.inj hnamed).symm

theorem Member.ne_label_of_named? (h : Member.named? name = none) (i : Member) : name ≠ i.label := by
  rintro rfl
  rw [i.named?_label] at h
  cases h

theorem Partial.ext_get (h : ∀ i, p.get i = q.get i) : p = q := by
  obtain ⟨pc, pk, pv⟩ := p
  obtain ⟨qc, qk, qv⟩ := q
  obtain rfl : pc = qc := h .collection
  obtain rfl : pk = qk := h .key
  obtain rfl : pv = qv := h .value
  rfl

/-- A member that is asked for is noted if it is the first of its name and a string. -/
theorem note?_label_eq_some_iff :
    p.note? (i.label, v) = some q ↔ p.get i = none ∧ ∃ s, v = .string s ∧ p.set s i = q := by
  rw [Partial.note?_named i.named?_label]
  cases hi : p.get i with
  | none =>
    simp only [Option.isSome_none, Bool.false_eq_true, if_false, Option.map_eq_some_iff, true_and,
      Json.Value.string?_eq_some_iff]
  | some s => simp

/-- **What a fold over the members notes**, name by name.  The induction is on the members; what was
noted before decides whether one more may come. -/
theorem foldlM_note?_eq_some_iff :
    xs.foldlM Partial.note? p = some q ↔ ∀ i, Noted i xs (p.get i) (q.get i) := by
  induction xs generalizing p with
  | nil =>
    constructor
    · rintro h i
      obtain rfl := Option.some.inj h
      exact noted_nil.2 rfl
    · exact fun h => congrArg some (Partial.ext_get fun i => (noted_nil.1 (h i)).symm)
  | cons m xs ih =>
    obtain ⟨name, v⟩ := m
    rw [List.foldlM_cons, Option.bind_eq_bind, Option.bind_eq_some_iff]
    cases hname : Member.named? name with
    | none =>
      have hne := Member.ne_label_of_named? hname
      simp only [Partial.note?_unknown hname, Option.some.injEq, exists_eq_left', ih,
        noted_cons_of_ne (hne _)]
    | some j =>
      obtain rfl := Member.eq_label_of_named? hname
      simp only [note?_label_eq_some_iff, ih]
      -- what is noted under one name does not touch the others
      have hother : ∀ s, ∀ i ≠ j, (Noted i ((j.label, v) :: xs) (p.get i) (q.get i) ↔
          Noted i xs ((p.set s j).get i) (q.get i)) := by
        intro s i hij
        rw [noted_cons_of_ne (Member.label_ne_label hij.symm), Partial.get_set, if_neg hij]
      have hset : ∀ s, (p.set s j).get j = some s := fun s => by rw [Partial.get_set, if_pos rfl]
      constructor
      · rintro ⟨_, ⟨hj, s, rfl, rfl⟩, h⟩ i
        by_cases hij : i = j
        · subst hij
          exact noted_cons_label.2 ⟨hj, s, rfl, hset s ▸ h i⟩
        · exact (hother s i hij).2 (h i)
      · intro h
        obtain ⟨hj, s, rfl, hs⟩ := noted_cons_label.1 (h j)
        refine ⟨_, ⟨hj, s, rfl, rfl⟩, fun i => ?_⟩
        by_cases hij : i = j
        · subst hij
          exact (hset s).symm ▸ hs
        · exact (hother s i hij).1 (h i)

/-! ## The function and the shape -/

/-- The string of a record that a member stands for. -/
def field (r : Record) : Member → String
  | .collection => r.collection
  | .key => r.key
  | .value => r.value

theorem Partial.finish?_eq_some_iff :
    p.finish? = some r ↔ ∀ i, p.get i = some (r.field i).toList := by
  obtain ⟨c, k, v⟩ := p
  constructor
  · intro h
    rcases c with _ | c <;> rcases k with _ | k <;> rcases v with _ | v <;> try cases h
    rintro (_ | _ | _) <;> simp [get, field]
  · intro h
    obtain rfl : c = _ := h .collection
    obtain rfl : k = _ := h .key
    obtain rfl : v = _ := h .value
    simp [finish?, field]

/-- **An object is a record** just if each of the three names occurs exactly once, with its string. -/
theorem record?_object_eq_some_iff :
    record? (.object xs) = some r ↔ ∀ i, under i xs = [(i.label, .ofText (r.field i))] := by
  rw [record?, Option.bind_eq_some_iff]
  constructor
  · rintro ⟨q, hfold, hq⟩ i
    have hget := Partial.finish?_eq_some_iff.1 hq i
    rcases foldlM_note?_eq_some_iff.1 hfold i with ⟨-, hnone⟩ | ⟨-, s, hunder, hs⟩
    · rw [hnone, Partial.get_start] at hget
      cases hget
    · rw [hget, Option.some.injEq] at hs
      rw [hunder, Json.Value.ofText, hs]
  · intro h
    refine ⟨⟨some r.collection.toList, some r.key.toList, some r.value.toList⟩,
      foldlM_note?_eq_some_iff.2 fun i => Or.inr ⟨Partial.get_start i, _, h i, ?_⟩,
      Partial.finish?_eq_some_iff.2 fun i => ?_⟩ <;> cases i <;> rfl

theorem record?_array_eq_some_iff {vs : List Json.Value} :
    record? (.array vs) = some r ↔
      vs = [.ofText r.collection, .ofText r.key, .ofText r.value] := by
  constructor
  · intro h
    rcases vs with _ | ⟨c, _ | ⟨k, _ | ⟨v, _ | ⟨w, vs⟩⟩⟩⟩ <;> try cases h
    simp only [record?, Option.bind_eq_some_iff, Json.Value.string?_eq_some_iff] at h
    obtain ⟨c, rfl, k, rfl, v, rfl, hr⟩ := h
    obtain rfl := Option.some.inj hr
    simp [Json.Value.ofText]
  · rintro rfl
    simp [record?, Json.Value.ofText, Json.Value.string?]

theorem record?_eq_some_iff : record? v = some r ↔ Shaped r v := by
  constructor
  · intro h
    cases v with
    | object ms =>
      have hunder := record?_object_eq_some_iff.1 h
      exact .object (hunder .collection) (hunder .key) (hunder .value)
    | array vs =>
      rw [record?_array_eq_some_iff.1 h]
      exact .array
    | _ => cases h
  · rintro (⟨hcollection, hkey, hvalue⟩ | _)
    · refine record?_object_eq_some_iff.2 fun i => ?_
      cases i
      · exact hcollection
      · exact hkey
      · exact hvalue
    · exact record?_array_eq_some_iff.2 rfl

theorem toOption_eq_some_iff {x : Except Json.Fault Record} : x.toOption = some r ↔ x = .ok r := by
  cases x <;> simp [Except.toOption]

/-- **Records accept exactly their shape.**  Take any text that spells a document.  A record is read from
it just if the document has the shape of that record: an object in which each of the three names occurs
exactly once, with the record's string, or an array of the three strings.  From every other document
none is read; it is refused. -/
theorem accepts_exactly_its_shape {text : String} (h : Spells v text.toList) :
    (∀ r, ofJson text = .ok r ↔ Shaped r v) ∧
      ((∃ fault, ofJson text = .error fault) ↔ ¬ ∃ r, Shaped r v) := by
  have hread : (ofJson (String.ofList (text.toList ++ []))).toOption = record? v :=
    toOption_ofJson h (List.forall_mem_nil _)
  rw [List.append_nil, String.ofList_toList] at hread
  have hok : ∀ r, ofJson text = .ok r ↔ Shaped r v := fun r => by
    rw [← record?_eq_some_iff, ← hread, toOption_eq_some_iff]
  refine ⟨hok, ?_⟩
  simp only [← hok]
  cases ofJson text <;> simp

/-- A member of another name, whose value is an array with an object in it. -/
def nested : MemberText :=
  ⟨"n".toList, "\"n\"".toList, .array [.number ['1'], .object []], "[1,\x7b\x7d]".toList⟩

/-- A key whose name and string are written with escapes. -/
def escapedKey : MemberText :=
  ⟨"key".toList, "\"k\\u0065y\"".toList, .ofText "😀", "\"\\ud83d\\uDE00\"".toList⟩

/-- A member as it is printed. -/
def printed (name s : String) : MemberText :=
  ⟨name.toList, Json.quote name.toList, .ofText s, Json.quote s.toList⟩

/-- The name and the value of the member are spelled by their texts. -/
def Written (m : MemberText) : Prop := Named m.name m.nameText ∧ Spells m.value m.valueText

theorem written_nested : Written nested := by
  have hname : nested.nameText = Json.quote nested.name := by decide
  have htext : nested.valueText = '[' :: (['1'] ++ (further [['\x7b', '\x7d']] ++ [']'])) := by decide
  have hone : Json.Numeral ([] ++ (['1'] ++ ([] ++ []))) :=
    .intro (by decide) (.digits (by decide) ⟨by decide, List.forall_mem_singleton.2 rfl⟩) .none .none
  have hempty : Spells (.object []) ['\x7b', '\x7d'] := .emptyObject (List.forall_mem_nil _)
  refine ⟨by rw [hname]; exact Json.named_quote _, ?_⟩
  rw [htext]
  exact @Spells.array (.number ['1'], ['1']) [(.object [], ['\x7b', '\x7d'])]
    (List.forall_mem_cons.2 ⟨.number hone, List.forall_mem_singleton.2 hempty⟩)

theorem written_escapedKey : Written escapedKey := by
  have hname : Json.Body "key".toList
      (['k'] ++ (['\\', 'u', '0', '0', '6', '5'] ++ (['y'] ++ ['"']))) :=
    .char (.self (by decide) (by decide) (by decide)) (.char (.code (by decide))
      (.char (.self (by decide) (by decide) (by decide)) .close))
  have hvalue : Json.Body "😀".toList
      (['\\', 'u', 'd', '8', '3', 'd', '\\', 'u', 'D', 'E', '0', '0'] ++ ['"']) :=
    .char (.pair (show _ = some 0xD83D by decide) (by decide) (by decide)
      (show _ = some 0xDE00 by decide) (by decide) (by decide) (by decide)) .close
  have hnamed := Named.intro (List.forall_mem_nil _) (.intro hname) (List.forall_mem_nil _)
  exact ⟨hnamed, .string (.intro hvalue)⟩

theorem written_printed (name s : String) : Written (printed name s) :=
  ⟨Json.named_quote _, .string (Json.quoted_quote _)⟩

theorem spells_of_written {text : String} (h : ∀ n ∈ m :: ms, Written n)
    (htext : text.toList =
      '\x7b' :: (m.text ++ (further (ms.map MemberText.text) ++ ['\x7d']))) :
    Spells (.object ((m :: ms).map MemberText.member)) text.toList := by
  rw [htext]
  exact .object (fun n hn => (h n hn).1) fun n hn => (h n hn).2

/-- An object that has another member twice, before and between the members of the record. -/
def scattered : String :=
  "\x7b\"n\":[1,\x7b\x7d],\"k\\u0065y\":\"\\ud83d\\uDE00\",\"n\":[1,\x7b\x7d],\"value\":\"\"," ++
    "\"collection\":\"c\"\x7d"

/-- An object that has a key twice, under names that are written in two ways. -/
def repeated : String :=
  "\x7b\"key\":\"\",\"collection\":\"c\",\"value\":\"\",\"k\\u0065y\":\"\\ud83d\\uDE00\"\x7d"

theorem spells_scattered :
    Spells (.object ([nested, escapedKey, nested, printed "value" "", printed "collection" "c"].map
      MemberText.member)) scattered.toList := by
  refine spells_of_written ?_ (by decide)
  simp [written_nested, written_escapedKey, written_printed]

theorem spells_repeated :
    Spells (.object ([printed "key" "", printed "collection" "c", printed "value" "",
      escapedKey].map MemberText.member)) repeated.toList := by
  refine spells_of_written ?_ (by decide)
  simp [written_escapedKey, written_printed]

/-- The first object is read, and the second one is refused. -/
theorem scattered_is_accepted_repeated_is_refused :
    ofJson scattered = .ok ⟨"c", "😀", ""⟩ ∧ ∃ fault, ofJson repeated = .error fault := by
  refine ⟨((accepts_exactly_its_shape spells_scattered).1 _).2 (.object rfl rfl rfl),
    (accepts_exactly_its_shape spells_repeated).2.2 ?_⟩
  rintro ⟨r, ⟨-, hkey, -⟩⟩
  have hlength : 2 = 1 := congrArg List.length hkey
  cases hlength

end Record
end VarStore
