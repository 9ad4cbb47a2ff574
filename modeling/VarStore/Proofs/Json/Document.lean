import VarStore.Proofs.Json.Strings
import VarStore.Proofs.Text.Digits

/-!
# Whole documents in JSON

The readers that a record is read with take what they know to come and pass over everything else, so they
never build a document.  Here is a reader that builds one (`parse`).  It looks at the same signs in the
same order as `skipValue`, and keeps what it reads.

A document that is printed on lines is read back (`parse_pretty`).  What is printed for a document ends
where the document does, except for a number, which goes on as long as there are digits; so it must not be
followed by a sign that could belong to it (`EndsNumber`), and nothing that is printed behind a document
is such a sign.  The induction is on the document.  There is fuel enough as long as there is one unit for
each sign of the text, since every element and every member begins with a new line.

* `readValue`, `parse`: reading a document.
* `Value.IsPlain`: documents whose numbers are natural numbers.
* `ReadsBack`: what the induction carries.
-/

namespace VarStore
namespace Json

/-! ## Reading a document -/

/-- Read one of the three words. -/
def readWord (cs : List Char) : Except Fault (Value × List Char) :=
  match afterWord? "null".toList cs with
  | some rest => .ok (.null, rest)
  | none =>
    match afterWord? "true".toList cs with
    | some rest => .ok (.bool true, rest)
    | none =>
      match afterWord? "false".toList cs with
      | some rest => .ok (.bool false, rest)
      | none => .error .malformed

/-- Read a number, and keep how it is spelled. -/
def readSpelling (cs : List Char) : Except Fault (Value × List Char) :=
  (readNumber cs).map fun p => (.number (cs.take (cs.length - p.2.length)), p.2)

mutual

/-- Read a document. -/
def readValue : Nat → List Char → Except Fault (Value × List Char)
  | 0, _ => .error .malformed
  | fuel + 1, cs =>
    match skipBlanks cs with
    | [] => .error .malformed
    | '"' :: rest => (readString rest).map fun p => (.string p.1, p.2)
    | '[' :: rest =>
      match skipBlanks rest with
      | ']' :: rest => .ok (.array [], rest)
      | rest => (readElements fuel rest).map fun p => (.array p.1, p.2)
    | '\x7b' :: rest =>
      match skipBlanks rest with
      | '\x7d' :: rest => .ok (.object [], rest)
      | rest => (readMembers fuel rest).map fun p => (.object p.1, p.2)
    | c :: rest =>
      if c = '-' ∨ c.isDigit then readSpelling (c :: rest) else readWord (c :: rest)

/-- Read the elements of an array, at least one, and its end. -/
def readElements : Nat → List Char → Except Fault (List Value × List Char)
  | 0, _ => .error .malformed
  | fuel + 1, cs =>
    (readValue fuel cs).bind fun p =>
      match skipBlanks p.2 with
      | ',' :: rest => (readElements fuel rest).map fun q => (p.1 :: q.1, q.2)
      | ']' :: rest => .ok ([p.1], rest)
      | _ => .error .malformed

/-- Read the members of an object, at least one, and its end. -/
def readMembers : Nat → List Char → Except Fault (List (List Char × Value) × List Char)
  | 0, _ => .error .malformed
  | fuel + 1, cs =>
    match skipBlanks cs with
    | '"' :: rest =>
      (readString rest).bind fun name =>
        match skipBlanks name.2 with
        | ':' :: rest =>
          (readValue fuel rest).bind fun p =>
            match skipBlanks p.2 with
            | ',' :: rest => (readMembers fuel rest).map fun q => ((name.1, p.1) :: q.1, q.2)
            | '\x7d' :: rest => .ok ([(name.1, p.1)], rest)
            | _ => .error .malformed
        | _ => .error .malformed
    | _ => .error .malformed

end

/-- The document that a text spells; only blanks may follow it. -/
def parse (text : String) : Except Fault Value :=
  (readValue (text.toList.length + 1) text.toList).bind fun p =>
    if (skipBlanks p.2).isEmpty then .ok p.1 else .error .malformed

/-! ## Blanks -/

variable {front : List Char}

/-- Blanks in front do not count. -/
theorem skipBlanks_append (hfront : ∀ c ∈ front, isBlank c = true) (cs : List Char) :
    skipBlanks (front ++ cs) = skipBlanks cs :=
  List.dropWhile_append_of_pos hfront

/-- Nothing is left of blanks. -/
theorem skipBlanks_eq_nil (hfront : ∀ c ∈ front, isBlank c = true) : skipBlanks front = [] := by
  rw [← List.append_nil front, skipBlanks_append hfront]
  rfl

theorem readValue_append (hfront : ∀ c ∈ front, isBlank c = true) (fuel : Nat) (cs : List Char) :
    readValue fuel (front ++ cs) = readValue fuel cs := by
  cases fuel with
  | zero => rfl
  | succ fuel => rw [readValue, readValue, skipBlanks_append hfront]

theorem isBlank_of_mem_newLine {depth : Nat} {c : Char} (hc : c ∈ newLine depth) :
    isBlank c = true := by
  rcases List.mem_cons.1 hc with rfl | hc
  · decide
  · rw [List.eq_of_mem_replicate hc]
    decide

/-! ## Numbers -/

/-- The text does not begin with a sign that a number could go on with. -/
def EndsNumber (rest : List Char) : Prop :=
  ∀ c ∈ rest.head?, c.isDigit = false ∧ c ≠ '.' ∧ c ≠ 'e' ∧ c ≠ 'E'

theorem endsNumber_cons {c : Char} (hc : c.isDigit = false ∧ c ≠ '.' ∧ c ≠ 'e' ∧ c ≠ 'E')
    (cs : List Char) : EndsNumber (c :: cs) := by
  rintro d hd
  obtain rfl : c = d := by simpa using hd
  exact hc

theorem endsNumber_newLine_append (depth : Nat) (cs : List Char) :
    EndsNumber (newLine depth ++ cs) :=
  endsNumber_cons (by decide) _

/-- A blank is no sign that a number could go on with. -/
theorem notInNumber_of_isBlank {c : Char} (hc : isBlank c = true) :
    c.isDigit = false ∧ c ≠ '.' ∧ c ≠ 'e' ∧ c ≠ 'E' := by
  simp only [isBlank, Bool.or_eq_true, decide_eq_true_eq] at hc
  rcases hc with ((rfl | rfl) | rfl) | rfl <;> decide

theorem isBlank_of_isDigit {d : Char} (hd : d.isDigit = true) : isBlank d = false :=
  Bool.eq_false_iff.2 fun hblank =>
    Bool.eq_false_iff.1 (notInNumber_of_isBlank hblank).1 hd

variable {rest : List Char}

/-- Digits in front of a text that does not begin with one. -/
theorem span_digits {ds : List Char} (hds : ∀ c ∈ ds, c.isDigit = true)
    (hrest : ∀ c ∈ rest.head?, c.isDigit = false) :
    (ds ++ rest).takeWhile Char.isDigit = ds ∧ (ds ++ rest).dropWhile Char.isDigit = rest := by
  rw [List.takeWhile_append_of_pos hds, List.dropWhile_append_of_pos hds]
  cases rest with
  | nil => simp
  | cons c rest =>
    have hc := hrest c rfl
    rw [List.takeWhile_cons_of_neg (by simp [hc]), List.dropWhile_cons_of_neg (by simp [hc])]
    simp

theorem readWhole_toDigits (n : Nat) (hrest : EndsNumber rest) :
    readWhole (Nat.toDigits 10 n ++ rest) = .ok (Nat.toDigits 10 n, rest) := by
  obtain ⟨d, ds, hds, hzero⟩ := Text.exists_toDigits_eq_cons n
  have hdigits : ∀ c ∈ Nat.toDigits 10 n, c.isDigit = true := fun _ => Text.isDigit_of_mem_toDigits
  rw [hds] at hdigits ⊢
  obtain ⟨hd, hdigits⟩ := List.forall_mem_cons.1 hdigits
  rw [List.cons_append, readWhole]
  by_cases h0 : d = '0'
  · obtain rfl := hzero h0
    obtain ⟨-, rfl⟩ := List.cons.inj ((Nat.toDigits_zero 10).symm.trans hds)
    have hhead : rest.head?.any Char.isDigit = false := by
      cases rest with
      | nil => rfl
      | cons c rest => exact (hrest c rfl).1
    rw [if_pos h0, List.nil_append, hhead, if_neg Bool.false_ne_true, h0]
  · obtain ⟨htake, hdrop⟩ := span_digits hdigits fun c hc => (hrest c hc).1
    rw [if_neg h0, if_pos hd, htake, hdrop]

theorem readFraction_eq (hrest : ∀ c ∈ rest.head?, c ≠ '.') :
    readFraction rest = .ok ([], rest) := by
  cases rest with
  | nil => rfl
  | cons c rest =>
    rw [readFraction]
    exact fun _ h => absurd (List.cons.inj h).1 (hrest c rfl)

theorem readExponent_eq (hrest : EndsNumber rest) : readExponent rest = .ok (0, rest) := by
  cases rest with
  | nil => rfl
  | cons c rest =>
    obtain ⟨-, -, hsmall, hlarge⟩ := hrest c rfl
    unfold readExponent
    exact if_neg (not_or.2 ⟨hsmall, hlarge⟩)

/-- A number ends where its digits do. -/
theorem readNumber_toDigits (n : Nat) (hrest : EndsNumber rest) :
    readNumber (Nat.toDigits 10 n ++ rest) = .ok (⟨Nat.toDigits 10 n, [], 0⟩, rest) := by
  have hwhole := readWhole_toDigits n hrest
  obtain ⟨d, ds, hds, -⟩ := Text.exists_toDigits_eq_cons n
  have hsign : d ≠ '-' := by
    rintro rfl
    have hdigit := Text.isDigit_of_mem_toDigits (n := n) (d := '-') (by simp [hds])
    exact absurd hdigit (by decide)
  have hread : readNumber (Nat.toDigits 10 n ++ rest) =
      (readWhole (Nat.toDigits 10 n ++ rest)).bind fun w =>
        (readFraction w.2).bind fun f =>
          (readExponent f.2).bind fun e => .ok (⟨w.1, f.1, e.1⟩, e.2) := by
    rw [hds, List.cons_append, readNumber]
    · rfl
    · exact fun _ h => absurd (List.cons.inj h).1 hsign
  rw [hread, hwhole]
  show (readFraction rest).bind _ = _
  rw [readFraction_eq fun c hc => (hrest c hc).2.1]
  show (readExponent rest).bind _ = _
  rw [readExponent_eq hrest]
  rfl

/-! ## Documents that are printed -/

/-- Every number in the document is a natural number. -/
inductive Value.IsPlain : Value → Prop where
  | null : IsPlain .null
  | bool (b : Bool) : IsPlain (.bool b)
  | natural (n : Nat) : IsPlain (.ofNat n)
  | string (s : List Char) : IsPlain (.string s)
  | array {vs : List Value} (h : ∀ v ∈ vs, IsPlain v) : IsPlain (.array vs)
  | object {ms : List (List Char × Value)} (h : ∀ m ∈ ms, IsPlain m.2) : IsPlain (.object ms)

/-- What is printed for the document at any depth is read back, and what is behind it is left. -/
def ReadsBack (v : Value) : Prop :=
  ∀ depth fuel rest, EndsNumber rest → (prettyAt depth v).length ≤ fuel →
    readValue fuel (prettyAt depth v ++ rest) = .ok (v, rest)

variable {v : Value} {vs : List Value} {k : List Char} {ms : List (List Char × Value)} {fuel : Nat}

/-- The same with blanks in front. -/
theorem ReadsBack.append (hv : ReadsBack v) (hfront : ∀ c ∈ front, isBlank c = true) (depth : Nat)
    (hfuel : (prettyAt depth v).length ≤ fuel) (hrest : EndsNumber rest) :
    readValue fuel (front ++ (prettyAt depth v ++ rest)) = .ok (v, rest) := by
  rw [readValue_append hfront]
  exact hv depth fuel rest hrest hfuel

theorem newLine_blank (depth : Nat) : ∀ c ∈ newLine depth, isBlank c = true :=
  fun _ => isBlank_of_mem_newLine

/-- What is printed does not begin with a blank, nor as an array ends. -/
theorem exists_prettyAt_eq_cons (hv : v.IsPlain) (depth : Nat) :
    ∃ c cs, prettyAt depth v = c :: cs ∧ isBlank c = false ∧ c ≠ ']' := by
  cases hv with
  | null => exact ⟨_, _, rfl, by decide, by decide⟩
  | bool b => cases b <;> exact ⟨_, _, rfl, by decide, by decide⟩
  | natural n =>
    obtain ⟨d, ds, hds, -⟩ := Text.exists_toDigits_eq_cons n
    have hd : d.isDigit = true := Text.isDigit_of_mem_toDigits (n := n) (by simp [hds])
    refine ⟨d, ds, hds, isBlank_of_isDigit hd, ?_⟩
    rintro rfl
    cases hd
  | string s => exact ⟨_, _, rfl, by decide, by decide⟩
  | @array vs h => cases vs <;> exact ⟨_, _, rfl, by decide, by decide⟩
  | @object ms h => rcases ms with _ | ⟨⟨k, v⟩, ms⟩ <;> exact ⟨_, _, rfl, by decide, by decide⟩

theorem readsBack_null : ReadsBack .null := by
  rintro depth (_ | fuel) rest - hfuel
  · cases hfuel
  · rfl

theorem readsBack_bool (b : Bool) : ReadsBack (.bool b) := by
  rintro depth (_ | fuel) rest - hfuel
  · cases b <;> cases hfuel
  · cases b <;> rfl

/-- What begins with a digit is a number. -/
theorem readValue_of_isDigit {d : Char} (hd : d.isDigit = true) (fuel : Nat) (cs : List Char) :
    readValue (fuel + 1) (d :: cs) = readSpelling (d :: cs) := by
  rw [readValue, skipBlanks_cons_of_not_isBlank (isBlank_of_isDigit hd)]
  split
  · next h => cases h
  · next h =>
    obtain ⟨rfl, -⟩ := List.cons.inj h
    cases hd
  · next h =>
    obtain ⟨rfl, -⟩ := List.cons.inj h
    cases hd
  · next h =>
    obtain ⟨rfl, -⟩ := List.cons.inj h
    cases hd
  · next c rest _ _ _ h =>
    rw [← h]
    obtain ⟨rfl, -⟩ := List.cons.inj h
    exact if_pos (Or.inr hd)

theorem readsBack_natural (n : Nat) : ReadsBack (.ofNat n) := by
  rintro depth fuel rest hrest hfuel
  obtain ⟨d, ds, hds, -⟩ := Text.exists_toDigits_eq_cons n
  have hd : d.isDigit = true := Text.isDigit_of_mem_toDigits (n := n) (by simp [hds])
  have hread : readSpelling (Nat.toDigits 10 n ++ rest) = .ok (.ofNat n, rest) := by
    rw [readSpelling, readNumber_toDigits n hrest]
    simp [Except.map, Value.ofNat]
  change (Nat.toDigits 10 n).length ≤ fuel at hfuel
  show readValue fuel (Nat.toDigits 10 n ++ rest) = _
  rw [hds] at hread hfuel ⊢
  obtain ⟨fuel, rfl⟩ := Nat.exists_eq_add_of_lt hfuel
  rw [← hread]
  exact readValue_of_isDigit hd _ _

theorem readsBack_string (s : List Char) : ReadsBack (.string s) := by
  rintro depth (_ | fuel) rest - hfuel
  · cases hfuel
  · show readValue (fuel + 1) (quote s ++ rest) = _
    rw [quote_append, readValue, skipBlanks_cons_of_not_isBlank (by decide)]
    show (readString _).map _ = _
    rw [readString_flatMap_escapeChar]
    rfl

/-! ## Arrays -/

/-- An array that does not end at once. -/
theorem readValue_bracket (hfront : ∀ c ∈ front, isBlank c = true) {c : Char}
    (hblank : isBlank c = false) (hend : c ≠ ']') (fuel : Nat) (cs : List Char) :
    readValue (fuel + 1) ('[' :: (front ++ c :: cs)) =
      (readElements fuel (c :: cs)).map fun p => (.array p.1, p.2) := by
  have hskip : skipBlanks (front ++ c :: cs) = c :: cs := by
    rw [skipBlanks_append hfront, skipBlanks_cons_of_not_isBlank hblank]
  rw [readValue, skipBlanks_cons_of_not_isBlank (by decide)]
  simp only [hskip]
  split
  · next h => exact absurd (List.cons.inj h).1 hend
  · rfl

/-- Reading the last element. -/
theorem readElements_last {cs tail : List Char} (hv : readValue fuel cs = .ok (v, tail))
    (htail : skipBlanks tail = ']' :: rest) : readElements (fuel + 1) cs = .ok ([v], rest) := by
  simp only [readElements, hv, Except.bind, htail]

/-- Reading an element that is not the last one. -/
theorem readElements_comma {cs tail more : List Char} (hv : readValue fuel cs = .ok (v, tail))
    (htail : skipBlanks tail = ',' :: more) :
    readElements (fuel + 1) cs = (readElements fuel more).map fun q => (v :: q.1, q.2) := by
  simp only [readElements, hv, Except.bind, htail]

theorem prettyElements_nil_append (depth : Nat) (rest : List Char) :
    prettyElements depth [] ++ rest = newLine depth ++ ']' :: rest := by
  rw [prettyElements, List.append_assoc, List.singleton_append]

theorem prettyElements_cons_append (depth : Nat) (v : Value) (vs : List Value)
    (rest : List Char) :
    prettyElements depth (v :: vs) ++ rest =
      ',' :: (newLine (depth + 1) ++
        (prettyAt (depth + 1) v ++ (prettyElements depth vs ++ rest))) := by
  rw [prettyElements]
  simp only [List.cons_append, List.append_assoc]

theorem endsNumber_prettyElements (depth : Nat) (vs : List Value) (rest : List Char) :
    EndsNumber (prettyElements depth vs ++ rest) := by
  cases vs with
  | nil =>
    rw [prettyElements_nil_append]
    exact endsNumber_newLine_append depth _
  | cons v vs =>
    rw [prettyElements_cons_append]
    exact endsNumber_cons (by decide) _

/-- **Reading the elements of an array.**  The induction is on the elements behind the first. -/
theorem readElements_pretty (hvs : ∀ w ∈ v :: vs, ReadsBack w)
    (hfront : ∀ c ∈ front, isBlank c = true) (depth : Nat) (rest : List Char)
    (hfuel : (prettyAt (depth + 1) v ++ prettyElements depth vs).length < fuel) :
    readElements fuel (front ++ (prettyAt (depth + 1) v ++ (prettyElements depth vs ++ rest))) =
      .ok (v :: vs, rest) := by
  induction vs generalizing v front fuel with
  | nil =>
    obtain ⟨fuel, rfl⟩ := Nat.exists_eq_succ_of_ne_zero (Nat.ne_of_gt (Nat.zero_lt_of_lt hfuel))
    rw [List.length_append] at hfuel
    have hroom : (prettyAt (depth + 1) v).length ≤ fuel := by omega
    refine readElements_last ((hvs v List.mem_cons_self).append hfront _ hroom
      (endsNumber_prettyElements depth [] rest)) ?_
    rw [prettyElements_nil_append, skipBlanks_append (newLine_blank depth)]
    exact skipBlanks_cons_of_not_isBlank (by decide) rest
  | cons w vs ih =>
    obtain ⟨fuel, rfl⟩ := Nat.exists_eq_succ_of_ne_zero (Nat.ne_of_gt (Nat.zero_lt_of_lt hfuel))
    have hlength := congrArg List.length (prettyElements_cons_append depth w vs [])
    simp only [List.length_append, List.length_cons, List.length_nil] at hfuel hlength
    have hroom : (prettyAt (depth + 1) v).length ≤ fuel := by omega
    have hskip : skipBlanks (prettyElements depth (w :: vs) ++ rest) = ',' :: (newLine (depth + 1) ++
        (prettyAt (depth + 1) w ++ (prettyElements depth vs ++ rest))) := by
      rw [prettyElements_cons_append, skipBlanks_cons_of_not_isBlank (by decide)]
    rw [readElements_comma ((hvs v List.mem_cons_self).append hfront _ hroom
        (endsNumber_prettyElements depth (w :: vs) rest)) hskip,
      ih (fun x hx => hvs x (List.mem_cons_of_mem v hx)) (newLine_blank (depth + 1))
        (by rw [List.length_append]; omega)]
    rfl

theorem readsBack_array (hplain : ∀ v ∈ vs, v.IsPlain) (hvs : ∀ v ∈ vs, ReadsBack v) :
    ReadsBack (.array vs) := by
  rintro depth (_ | fuel) rest - hfuel
  · cases vs <;> cases hfuel
  · cases vs with
    | nil => rfl
    | cons v vs =>
      have htext : ∀ rest, prettyAt depth (.array (v :: vs)) ++ rest = '[' :: (newLine (depth + 1) ++
          (prettyAt (depth + 1) v ++ (prettyElements depth vs ++ rest))) := by
        intro rest
        rw [prettyAt]
        simp only [List.cons_append, List.append_assoc]
      have hlength := congrArg List.length (htext [])
      have hroom : (prettyAt (depth + 1) v ++ prettyElements depth vs).length < fuel := by
        simp only [List.length_append, List.length_cons, List.length_nil, newLine] at hlength ⊢
        omega
      obtain ⟨c, cs, hc, hblank, hend⟩ :=
        exists_prettyAt_eq_cons (hplain v List.mem_cons_self) (depth + 1)
      have hread := readElements_pretty hvs (List.forall_mem_nil _) depth rest hroom
      rw [List.nil_append, hc, List.cons_append] at hread
      rw [htext, hc, List.cons_append,
        readValue_bracket (newLine_blank (depth + 1)) hblank hend, hread]
      rfl

/-! ## Objects -/

/-- An object that does not end at once. -/
theorem readValue_brace (hfront : ∀ c ∈ front, isBlank c = true) (fuel : Nat) (cs : List Char) :
    readValue (fuel + 1) ('\x7b' :: (front ++ '"' :: cs)) =
      (readMembers fuel ('"' :: cs)).map fun p => (.object p.1, p.2) := by
  have hskip : skipBlanks (front ++ '"' :: cs) = '"' :: cs := by
    rw [skipBlanks_append hfront, skipBlanks_cons_of_not_isBlank (by decide)]
  rw [readValue, skipBlanks_cons_of_not_isBlank (by decide)]
  simp only [hskip]
  rfl

/-- Reading the last member. -/
theorem readMembers_last {cs tail : List Char} (hfront : ∀ c ∈ front, isBlank c = true)
    (hv : readValue fuel cs = .ok (v, tail)) (htail : skipBlanks tail = '\x7d' :: rest) :
    readMembers (fuel + 1) (front ++ (quote k ++ ':' :: cs)) = .ok ([(k, v)], rest) := by
  rw [readMembers, skipBlanks_append hfront, skipBlanks_quote_append, quote_append]
  simp only [readString_flatMap_escapeChar, Except.bind,
    skipBlanks_cons_of_not_isBlank (show isBlank ':' = false by decide), hv, htail]

/-- Reading a member that is not the last one. -/
theorem readMembers_comma {cs tail more : List Char} (hfront : ∀ c ∈ front, isBlank c = true)
    (hv : readValue fuel cs = .ok (v, tail)) (htail : skipBlanks tail = ',' :: more) :
    readMembers (fuel + 1) (front ++ (quote k ++ ':' :: cs)) =
      (readMembers fuel more).map fun q => ((k, v) :: q.1, q.2) := by
  rw [readMembers, skipBlanks_append hfront, skipBlanks_quote_append, quote_append]
  simp only [readString_flatMap_escapeChar, Except.bind,
    skipBlanks_cons_of_not_isBlank (show isBlank ':' = false by decide), hv, htail]

theorem prettyMembers_nil_append (depth : Nat) (rest : List Char) :
    prettyMembers depth [] ++ rest = newLine depth ++ '\x7d' :: rest := by
  rw [prettyMembers, List.append_assoc, List.singleton_append]

theorem prettyMembers_cons_append (depth : Nat) (k : List Char) (v : Value)
    (ms : List (List Char × Value)) (rest : List Char) :
    prettyMembers depth ((k, v) :: ms) ++ rest =
      ',' :: (newLine (depth + 1) ++ (quote k ++ ':' ::
        ([' '] ++ (prettyAt (depth + 1) v ++ (prettyMembers depth ms ++ rest))))) := by
  rw [prettyMembers]
  simp only [List.cons_append, List.append_assoc, List.nil_append]

theorem endsNumber_prettyMembers (depth : Nat) (ms : List (List Char × Value)) (rest : List Char) :
    EndsNumber (prettyMembers depth ms ++ rest) := by
  rcases ms with _ | ⟨⟨k, v⟩, ms⟩
  · rw [prettyMembers_nil_append]
    exact endsNumber_newLine_append depth _
  · rw [prettyMembers_cons_append]
    exact endsNumber_cons (by decide) _

/-- **Reading the members of an object.**  The induction is on the members behind the first. -/
theorem readMembers_pretty (hms : ∀ m ∈ (k, v) :: ms, ReadsBack m.2)
    (hfront : ∀ c ∈ front, isBlank c = true) (depth : Nat) (rest : List Char)
    (hfuel : (prettyAt (depth + 1) v ++ prettyMembers depth ms).length < fuel) :
    readMembers fuel (front ++ (quote k ++ ':' ::
        ([' '] ++ (prettyAt (depth + 1) v ++ (prettyMembers depth ms ++ rest))))) =
      .ok ((k, v) :: ms, rest) := by
  have hblank : ∀ c ∈ [' '], isBlank c = true := List.forall_mem_singleton.2 rfl
  induction ms generalizing k v front fuel with
  | nil =>
    obtain ⟨fuel, rfl⟩ := Nat.exists_eq_succ_of_ne_zero (Nat.ne_of_gt (Nat.zero_lt_of_lt hfuel))
    rw [List.length_append] at hfuel
    have hroom : (prettyAt (depth + 1) v).length ≤ fuel := by omega
    refine readMembers_last hfront ((hms (k, v) List.mem_cons_self).append hblank _ hroom
      (endsNumber_prettyMembers depth [] rest)) ?_
    rw [prettyMembers_nil_append, skipBlanks_append (newLine_blank depth)]
    exact skipBlanks_cons_of_not_isBlank (by decide) rest
  | cons m ms ih =>
    obtain ⟨j, w⟩ := m
    obtain ⟨fuel, rfl⟩ := Nat.exists_eq_succ_of_ne_zero (Nat.ne_of_gt (Nat.zero_lt_of_lt hfuel))
    have hlength := congrArg List.length (prettyMembers_cons_append depth j w ms [])
    simp only [List.length_append, List.length_cons, List.length_nil] at hfuel hlength
    have hroom : (prettyAt (depth + 1) v).length ≤ fuel := by omega
    have hskip := prettyMembers_cons_append depth j w ms rest
    rw [readMembers_comma hfront ((hms (k, v) List.mem_cons_self).append hblank _ hroom
        (endsNumber_prettyMembers depth ((j, w) :: ms) rest))
        (by rw [hskip, skipBlanks_cons_of_not_isBlank (by decide)]),
      ih (fun x hx => hms x (List.mem_cons_of_mem (k, v) hx)) (newLine_blank (depth + 1))
        (by rw [List.length_append]; omega)]
    rfl

theorem readsBack_object (hms : ∀ m ∈ ms, ReadsBack m.2) : ReadsBack (.object ms) := by
  rintro depth (_ | fuel) rest - hfuel
  · rcases ms with _ | ⟨⟨k, v⟩, ms⟩ <;> cases hfuel
  · rcases ms with _ | ⟨⟨k, v⟩, ms⟩
    · rfl
    · have htext : ∀ rest, prettyAt depth (.object ((k, v) :: ms)) ++ rest =
          '\x7b' :: (newLine (depth + 1) ++ (quote k ++ ':' ::
            ([' '] ++ (prettyAt (depth + 1) v ++ (prettyMembers depth ms ++ rest))))) := by
        intro rest
        rw [prettyAt]
        simp only [List.cons_append, List.append_assoc, List.nil_append]
      have hlength := congrArg List.length (htext [])
      have hroom : (prettyAt (depth + 1) v ++ prettyMembers depth ms).length < fuel := by
        simp only [List.length_append, List.length_cons, List.length_nil, newLine] at hlength ⊢
        omega
      have hread := readMembers_pretty hms (List.forall_mem_nil _) depth rest hroom
      rw [List.nil_append, quote_append] at hread
      rw [htext, quote_append, readValue_brace (newLine_blank (depth + 1)), hread]
      rfl

/-! ## Whole documents -/

/-- **What is printed for a document is read back.**  The induction is on the document. -/
theorem Value.IsPlain.readsBack (hv : v.IsPlain) : ReadsBack v := by
  induction hv with
  | null => exact readsBack_null
  | bool b => exact readsBack_bool b
  | natural n => exact readsBack_natural n
  | string s => exact readsBack_string s
  | array h ih => exact readsBack_array h ih
  | object h ih => exact readsBack_object ih

/-- **A printed document spells the document**, also with blanks behind it. -/
theorem parse_pretty (hv : v.IsPlain) {blanks : List Char} (hblanks : ∀ c ∈ blanks, isBlank c = true) :
    parse (String.ofList (pretty v ++ blanks)) = .ok v := by
  have hrest : EndsNumber blanks := fun c hc =>
    notInNumber_of_isBlank (hblanks c (List.mem_of_mem_head? hc))
  have hread := hv.readsBack 0 ((pretty v ++ blanks).length + 1) blanks hrest (by
    rw [List.length_append, pretty]
    omega)
  rw [parse, String.toList_ofList]
  change readValue _ (pretty v ++ blanks) = _ at hread
  rw [hread]
  show (if (skipBlanks blanks).isEmpty then _ else _) = _
  rw [skipBlanks_eq_nil hblanks]
  rfl

end Json
end VarStore
