import VarStore.Proofs.Text.Decimal
import VarStore.Proofs.Text.Digits
import VarStore.Proofs.Toml.Blank
import VarStore.Toml.Number

/-!
# Reading numbers in TOML

A number is read as the one that its digits spell, and only what the grammar has for numbers is read
as one.  Behind the sign, which is at most one character, integers and other numbers begin alike, so
they are read together (`Unsigned`), and the base of an integer without a sign is looked for first.

A number does not say where it ends.  It must not be followed by a sign that could belong to it, and
what may stand behind a value in a document is no such sign (`Follows`).

* `readDigits_append`, `exists_digits_of_readDigits`: digits, for any base.
* `readUnsigned_append`, `exists_unsigned_of_readUnsigned`: numbers behind their sign.
* `readNumber_append`, `exists_plain_of_readNumber`: numbers.
-/

namespace VarStore
namespace Toml

variable {c : Char} {cs ds es fs w rest : List Char} {base n : Nat} {s : Int} {v : Value}

/-! ## What may stand behind a value -/

/-- What stands behind a value: blanks, and then the end of the line, a comment, or a sign that goes
on with or ends what the value stands in. -/
def Follows (rest : List Char) : Prop :=
  ∀ c ∈ (skipBlanks rest).head?, c ∈ [',', ']', '\x7d', '#', '\n', '\r']

/-- The signs that may stand right behind a value. -/
def enders : List Char := [' ', '\t', ',', ']', '\x7d', '#', '\n', '\r']

/-- None of them could belong to the value. -/
theorem not_digit_of_mem_enders : ∀ c ∈ enders, Text.hexDigit? c = none ∧
    c ∉ ['.', 'e', 'E', '_', '-', '+', ':', 'x', 'o', 'b', 'T', 't', 'Z', 'z', '"', '\''] :=
  List.all_iff_forall_prop.1 (by decide)

theorem Follows.head (h : Follows rest) : ∀ c ∈ rest.head?, c ∈ enders := by
  rintro c hc
  obtain ⟨b, hb, hrest⟩ := exists_blanks rest
  cases b with
  | nil =>
    rw [List.nil_append] at hrest
    exact List.mem_cons_of_mem _ (List.mem_cons_of_mem _ (h c (hrest ▸ hc)))
  | cons d b =>
    rw [hrest, List.cons_append] at hc
    obtain rfl := Option.some.inj hc
    rcases hb d List.mem_cons_self with rfl | rfl <;> decide

/-- In front of such a sign there may be blanks. -/
theorem follows_append {b : List Char} (hb : Blanks b) (h : Follows rest) : Follows (b ++ rest) := by
  rw [Follows, skipBlanks_append hb]
  exact h

theorem follows_cons (hc : c ∈ [',', ']', '\x7d', '#', '\n', '\r']) : Follows (c :: rest) := by
  have hblank : ¬ Blank c := by
    rintro (rfl | rfl) <;> exact absurd hc (by decide)
  rw [Follows, skipBlanks_cons hblank]
  rintro d hd
  obtain rfl := Option.some.inj hd
  exact hc

/-! ## Digits -/

theorem Digit.hexDigit?_ne_none (h : Digit base c) : Text.hexDigit? c ≠ none := by
  obtain ⟨n, -, hn⟩ := h
  exact hn ▸ Option.some_ne_none n

/-- What may stand behind a value is no digit. -/
theorem Follows.not_digit (h : Follows rest) (hc : c ∈ rest.head?) : ¬ Digit base c := fun hdigit =>
  hdigit.hexDigit?_ne_none (not_digit_of_mem_enders c (h.head c hc)).1

/-- It is no sign that a value could go on with either. -/
theorem Follows.not_sign (h : Follows rest) (hc : c ∈ rest.head?) :
    c ∉ ['.', 'e', 'E', '_', '-', '+', ':', 'x', 'o', 'b', 'T', 't', 'Z', 'z', '"', '\''] :=
  (not_digit_of_mem_enders c (h.head c hc)).2

/-- So digits end in front of it. -/
theorem Follows.ends (h : Follows rest) : ∀ c ∈ rest.head?, ¬ Digit base c ∧ c ≠ '_' := by
  refine fun c hc => ⟨h.not_digit hc, ?_⟩
  rintro rfl
  exact h.not_sign hc (by decide)

/-- The figures are digits, with the value that their code says; the letters are worth more. -/
theorem hexDigit?_cases (h : Text.hexDigit? c = some n) :
    (48 ≤ c.toNat ∧ c.toNat ≤ 57 ∧ n = c.toNat - 48) ∨ (57 < c.toNat ∧ 10 ≤ n ∧ n < 16) := by
  have hle : ∀ x y : Char, x ≤ y ↔ x.toNat ≤ y.toNat := fun x y =>
    UInt32.le_iff_toNat_le
  simp only [Text.hexDigit?, hle] at h
  split at h
  · next hrange =>
    exact .inl ⟨hrange.1, hrange.2, (Option.some.inj h).symm⟩
  · split at h
    · next hrange =>
      obtain rfl := Option.some.inj h
      change 97 ≤ c.toNat ∧ c.toNat ≤ 102 at hrange
      change _ ∨ 57 < c.toNat ∧ 10 ≤ c.toNat - 97 + 10 ∧ c.toNat - 97 + 10 < 16
      omega
    · split at h
      · next hrange =>
        obtain rfl := Option.some.inj h
        change 65 ≤ c.toNat ∧ c.toNat ≤ 70 at hrange
        change _ ∨ 57 < c.toNat ∧ 10 ≤ c.toNat - 65 + 10 ∧ c.toNat - 65 + 10 < 16
        omega
      · cases h

/-- In a base up to ten the digits are the first figures. -/
theorem digit_iff_toNat (hbase : base ≤ 10) : Digit base c ↔ 48 ≤ c.toNat ∧ c.toNat < 48 + base := by
  constructor
  · rintro ⟨n, hn, hc⟩
    have hcases := hexDigit?_cases hc
    omega
  · rintro ⟨hleast, hmost⟩
    have hdigit : c.isDigit = true := by
      rw [Char.isDigit_iff_toNat]
      change 48 ≤ c.toNat ∧ c.toNat ≤ 57
      omega
    exact ⟨c.toNat - 48, by omega, Text.hexDigit?_of_isDigit hdigit⟩

theorem isDigit_iff : c.isDigit = true ↔ Digit 10 c := by
  rw [digit_iff_toNat le_rfl, Char.isDigit_iff_toNat]
  change 48 ≤ c.toNat ∧ c.toNat ≤ 57 ↔ _
  omega

theorem isHexDigit_iff : isHexDigit c = true ↔ Digit 16 c := by
  rw [isHexDigit, Option.isSome_iff_exists]
  constructor
  · rintro ⟨n, hn⟩
    have hcases := hexDigit?_cases hn
    exact ⟨n, by omega, hn⟩
  · rintro ⟨n, -, hn⟩
    exact ⟨n, hn⟩

theorem octal_iff : ('0' ≤ c && c ≤ '7') = true ↔ Digit 8 c := by
  rw [digit_iff_toNat (by decide), Bool.and_eq_true, decide_eq_true_eq, decide_eq_true_eq,
    Char.le_def, Char.le_def, UInt32.le_iff_toNat_le, UInt32.le_iff_toNat_le]
  change 48 ≤ c.toNat ∧ c.toNat ≤ 55 ↔ _
  omega

theorem binary_iff : (c = '0' || c = '1') = true ↔ Digit 2 c := by
  have heq : ∀ d : Char, c = d ↔ c.toNat = d.toNat := fun d => Char.toNat_inj.symm
  rw [digit_iff_toNat (by decide), Bool.or_eq_true, decide_eq_true_eq, decide_eq_true_eq, heq, heq]
  change c.toNat = 48 ∨ c.toNat = 49 ↔ _
  omega

theorem not_digit_underscore : ¬ Digit base '_' := fun h => h.hexDigit?_ne_none rfl

theorem Digits.exists_eq_cons (h : Digits base ds w) :
    ∃ c es v, ds = c :: es ∧ w = c :: v ∧ Digit base c := by
  cases h with
  | one hc => exact ⟨_, _, _, rfl, rfl, hc⟩
  | next hc _ => exact ⟨_, _, _, rfl, rfl, hc⟩
  | underscore hc _ => exact ⟨_, _, _, rfl, rfl, hc⟩

section

variable {ok : Char → Bool} (hok : ∀ {c : Char}, ok c = true ↔ Digit base c)

include hok

/-- **Digits are read as far as they go.** -/
theorem readDigits_append (h : Digits base ds w)
    (hrest : ∀ c ∈ rest.head?, ¬ Digit base c ∧ c ≠ '_') :
    readDigits ok (w ++ rest) = .ok (ds, rest) := by
  induction h with
  | @one c hc =>
    cases rest with
    | nil => rw [List.append_nil, readDigits, if_pos (hok.2 hc)]
    | cons d rest =>
      obtain ⟨hd, hunderscore⟩ := hrest d rfl
      rw [List.singleton_append, readDigits, if_pos (hok.2 hc), if_neg (mt hok.1 hd)]
      exact hunderscore
  | @next c ds w hc hds ih =>
    obtain ⟨d, es, v, rfl, rfl, hd⟩ := hds.exists_eq_cons
    rw [List.cons_append] at ih
    rw [List.cons_append, List.cons_append, readDigits, if_pos (hok.2 hc), if_pos (hok.2 hd), ih]
    · rfl
    · rintro rfl
      exact not_digit_underscore hd
  | @underscore c ds w hc hds ih =>
    have hstep : readDigits ok (c :: '_' :: w ++ rest) =
        if ok c then prepend c (readDigits ok (w ++ rest)) else .error .malformed := by
      simp only [List.cons_append]
      rw [readDigits]
    rw [hstep, if_pos (hok.2 hc), ih]
    rfl

/-- Only digits are read. -/
theorem exists_digits_of_readDigits (h : readDigits ok cs = .ok (ds, rest)) :
    ∃ w, Digits base ds w ∧ cs = w ++ rest := by
  fun_induction readDigits ok cs generalizing ds with
  | case1 => nomatch h
  | case2 c hc =>
    cases h
    exact ⟨_, .one (hok.1 hc), rfl⟩
  | case3 => nomatch h
  | case4 c cs hc ih =>
    obtain ⟨es, rfl, hread⟩ := prepend_eq_ok_iff.1 h
    obtain ⟨w, hw, rfl⟩ := ih hread
    exact ⟨_, .underscore (hok.1 hc) hw, rfl⟩
  | case5 => nomatch h
  | case6 c d cs _ hc hd ih =>
    obtain ⟨es, rfl, hread⟩ := prepend_eq_ok_iff.1 h
    obtain ⟨w, hw, hcs⟩ := ih hread
    exact ⟨c :: w, .next (hok.1 hc) hw, by rw [hcs]; rfl⟩
  | case7 c d cs _ hc hd =>
    cases h
    exact ⟨_, .one (hok.1 hc), rfl⟩
  | case8 => nomatch h

end

/-! ## Whole numbers and exponents -/

theorem readWhole_append (h : Whole ds w) (hrest : ∀ c ∈ rest.head?, ¬ Digit 10 c ∧ c ≠ '_') :
    readWhole (w ++ rest) = .ok (ds, rest) := by
  cases h with
  | zero => rfl
  | @digits d ds w hd h =>
    have hread := readDigits_append isDigit_iff h hrest
    obtain ⟨c, es, v, hds, rfl, -⟩ := h.exists_eq_cons
    obtain ⟨rfl, rfl⟩ := List.cons.inj hds
    rw [← hread, List.cons_append, readWhole]
    exact fun _ heq => hd (List.cons.inj heq).1

theorem exists_whole_of_readWhole (h : readWhole cs = .ok (ds, rest)) :
    ∃ w, Whole ds w ∧ cs = w ++ rest := by
  rw [readWhole.eq_def] at h
  split at h
  · cases h
    exact ⟨_, .zero, rfl⟩
  · next hzero =>
    obtain ⟨w, hw, rfl⟩ := exists_digits_of_readDigits isDigit_iff h
    obtain ⟨d, es, v, rfl, rfl, -⟩ := hw.exists_eq_cons
    refine ⟨_, .digits ?_ hw, rfl⟩
    rintro rfl
    exact hzero _ rfl

theorem integer_eq_ok_iff {n : Int} :
    integer n = .ok v ↔ (-2 ^ 63 ≤ n ∧ n < 2 ^ 63) ∧ v = .integer n := by
  have hrange : Int64.minValue.toInt ≤ n ∧ n ≤ Int64.maxValue.toInt ↔ -2 ^ 63 ≤ n ∧ n < 2 ^ 63 := by
    change -2 ^ 63 ≤ n ∧ n ≤ 2 ^ 63 - 1 ↔ _
    omega
  rw [integer, ← hrange]
  split
  · next hfits => rw [and_iff_right hfits, Except.ok.injEq, eq_comm]
  · next hfits => exact iff_of_false nofun fun h => hfits h.1

/-- The signs that a reader has passed over. -/
def signOf (negative : Bool) : Int := if negative then -1 else 1

theorem signed_eq (negative : Bool) (ds : List Char) :
    readAfterWhole.signed negative ds = integer (signOf negative * Text.ofDigits 10 ds) := by
  cases negative <;> simp [readAfterWhole.signed, signOf]

theorem isExponentLetter_iff : isExponentLetter c = true ↔ c = 'e' ∨ c = 'E' := by
  rw [isExponentLetter, Bool.or_eq_true, decide_eq_true_eq, decide_eq_true_eq]

/-- An exponent is read behind its letter. -/
theorem readExponent_append {e : Int} (h : Exponent e w)
    (hrest : ∀ c ∈ rest.head?, ¬ Digit 10 c ∧ c ≠ '_') :
    ∃ c v, w = c :: v ∧ isExponentLetter c = true ∧ readExponent (v ++ rest) = .ok (e, rest) := by
  obtain @⟨c, s, a, ds, w, hc, hs, hds⟩ := h
  refine ⟨c, a ++ w, rfl, isExponentLetter_iff.2 hc, ?_⟩
  have hread := readDigits_append isDigit_iff hds hrest
  cases hs with
  | none =>
    obtain ⟨d, es, v, rfl, rfl, hd⟩ := hds.exists_eq_cons
    have hd : d ≠ '-' ∧ d ≠ '+' := by
      constructor <;> rintro rfl <;> exact hd.hexDigit?_ne_none rfl
    rw [List.cons_append] at hread
    rw [List.nil_append, List.cons_append, readExponent, hread, one_mul]
    · rfl
    · exact fun _ heq => hd.1 (List.cons.inj heq).1
    · exact fun _ heq => hd.2 (List.cons.inj heq).1
  | plus =>
    simp only [List.cons_append, List.nil_append]
    rw [readExponent, hread, one_mul]
    rfl
  | minus =>
    simp only [List.cons_append, List.nil_append]
    rw [readExponent, hread, neg_one_mul]
    rfl

theorem exists_exponent_of_readExponent {e : Int} (hc : isExponentLetter c = true)
    (h : readExponent cs = .ok (e, rest)) : ∃ w, Exponent e (c :: w) ∧ cs = w ++ rest := by
  have hc := isExponentLetter_iff.1 hc
  -- the three rows differ in the sign only
  have hrow : ∀ {s : Int} {a cs : List Char}, Sign s a →
      ((readDigits Char.isDigit cs).map fun p => (s * (Text.ofDigits 10 p.1 : Int), p.2)) =
        .ok (e, rest) → ∃ w, Exponent e (c :: w) ∧ a ++ cs = w ++ rest := by
    intro s a cs hs h
    obtain ⟨⟨ds, tail⟩, hread, heq⟩ := exists_of_map_eq_ok h
    obtain ⟨rfl, rfl⟩ := Prod.mk.inj heq
    obtain ⟨w, hw, rfl⟩ := exists_digits_of_readDigits isDigit_iff hread
    exact ⟨a ++ w, .intro hc hs hw, by rw [List.append_assoc]⟩
  rw [readExponent.eq_def] at h
  split at h
  · exact hrow .minus (by simpa only [neg_one_mul] using h)
  · exact hrow .plus (by simpa only [one_mul] using h)
  · exact hrow .none (by simpa only [one_mul] using h)

/-! ## Numbers with a fraction or an exponent -/

/-- The bound holds for negative numbers in any case. -/
theorem float_eq_ok_iff {negative : Bool} {e : Int} :
    float negative ⟨ds, fs, e⟩ = .ok v ↔ Bounded (signOf negative) ds fs e ∧ v = .float := by
  have hvalue := Text.Decimal.isHuge_iff ⟨ds, fs, e⟩
  rw [Bounded, mul_assoc]
  change _ ↔ signOf negative * Text.Decimal.value ⟨ds, fs, e⟩ < _ ∧ _
  cases negative with
  | true =>
    have hbound : (signOf true : Rat) * Text.Decimal.value ⟨ds, fs, e⟩ < 2 ^ 1024 - 2 ^ 970 := by
      have hsign : (signOf true : Rat) = -1 := by simp [signOf]
      have hnonneg : 0 ≤ Text.Decimal.value ⟨ds, fs, e⟩ := by
        rw [Text.Decimal.value]
        positivity
      have hlimit : (0 : Rat) < 2 ^ 1024 - 2 ^ 970 := by
        rw [sub_pos]
        exact pow_lt_pow_right₀ (by norm_num) (by decide)
      rw [hsign, neg_one_mul]
      exact lt_of_le_of_lt (neg_nonpos.2 hnonneg) hlimit
    rw [and_iff_right hbound, float, Bool.not_true, Bool.false_and, if_neg Bool.false_ne_true,
      Except.ok.injEq, eq_comm]
  | false =>
    have hsign : (signOf false : Rat) = 1 := by simp [signOf]
    rw [hsign, one_mul, ← not_le, ← hvalue, float, Bool.not_false, Bool.true_and]
    split
    · next hhuge => exact iff_of_false (by simp) fun h => h.1 hhuge
    · next hhuge => rw [and_iff_right hhuge, Except.ok.injEq, eq_comm]

section

variable {negative : Bool} {e : Int}

theorem Follows.not_exponent (h : Follows rest) :
    ∀ c ∈ rest.head?, isExponentLetter c = false := by
  intro c hc
  rw [Bool.eq_false_iff, ne_eq, isExponentLetter_iff]
  rintro (rfl | rfl) <;> exact h.not_sign hc (by decide)

theorem readAfterFraction_exponent (h : Exponent e w) (hbound : Bounded (signOf negative) ds fs e)
    (hrest : Follows rest) :
    readAfterFraction negative ds fs (w ++ rest) = .ok (.float, rest) := by
  obtain ⟨c, v, rfl, hc, hread⟩ := readExponent_append h hrest.ends
  rw [List.cons_append, readAfterFraction, if_pos hc, hread]
  simp only [bind, Except.bind, float_eq_ok_iff.2 ⟨hbound, rfl⟩]
  rfl

theorem readAfterFraction_end (hbound : Bounded (signOf negative) ds fs 0)
    (hrest : Follows rest) : readAfterFraction negative ds fs rest = .ok (.float, rest) := by
  have hfloat := float_eq_ok_iff.2 ⟨hbound, rfl⟩
  cases rest with
  | nil =>
    rw [readAfterFraction, hfloat]
    rfl
  | cons c rest =>
    rw [readAfterFraction, hrest.not_exponent c rfl, if_neg Bool.false_ne_true, hfloat]
    rfl

theorem exists_of_readAfterFraction_letter (hc : isExponentLetter c = true)
    (h : readAfterFraction negative ds fs (c :: cs) = .ok (v, rest)) :
    v = .float ∧ ∃ e w, Exponent e w ∧ Bounded (signOf negative) ds fs e ∧ c :: cs = w ++ rest := by
  rw [readAfterFraction, if_pos hc] at h
  obtain ⟨⟨e, tail⟩, hread, h⟩ := exists_of_bind_eq_ok h
  obtain ⟨x, hfloat, h⟩ := exists_of_bind_eq_ok h
  obtain ⟨rfl, rfl⟩ := Prod.mk.inj (Except.ok.inj h)
  obtain ⟨hbound, rfl⟩ := float_eq_ok_iff.1 hfloat
  obtain ⟨w, hw, rfl⟩ := exists_exponent_of_readExponent hc hread
  exact ⟨rfl, e, c :: w, hw, hbound, rfl⟩

theorem exists_of_readAfterFraction (h : readAfterFraction negative ds fs cs = .ok (v, rest)) :
    v = .float ∧ ∃ e w, ((w = [] ∧ e = 0) ∨ Exponent e w) ∧ Bounded (signOf negative) ds fs e ∧
      cs = w ++ rest := by
  have hend : ∀ {cs : List Char}, (do return (← float negative ⟨ds, fs, 0⟩, cs)) = Except.ok (v, rest) →
      v = .float ∧ ∃ e w, ((w = [] ∧ e = 0) ∨ Exponent e w) ∧ Bounded (signOf negative) ds fs e ∧
        cs = w ++ rest := by
    intro cs h
    obtain ⟨x, hfloat, h⟩ := exists_of_bind_eq_ok h
    obtain ⟨rfl, rfl⟩ := Prod.mk.inj (Except.ok.inj h)
    obtain ⟨hbound, rfl⟩ := float_eq_ok_iff.1 hfloat
    exact ⟨rfl, 0, [], .inl ⟨rfl, rfl⟩, hbound, rfl⟩
  cases cs with
  | nil => exact hend h
  | cons c cs =>
    by_cases hc : isExponentLetter c = true
    · obtain ⟨hv, e, w, hw, hbound, hcs⟩ := exists_of_readAfterFraction_letter hc h
      exact ⟨hv, e, w, .inr hw, hbound, hcs⟩
    · rw [readAfterFraction, if_neg hc] at h
      exact hend h

/-- What stands behind the whole part begins with a point or the letter of an exponent. -/
theorem Tail.exists_eq_cons (h : Tail fs e w) :
    ∃ c v, w = c :: v ∧ (c = '.' ∨ isExponentLetter c = true) := by
  cases h with
  | fraction => exact ⟨_, _, rfl, .inl rfl⟩
  | exponent h =>
    obtain ⟨hc, -, -⟩ := h
    exact ⟨_, _, rfl, .inr (isExponentLetter_iff.2 hc)⟩
  | both => exact ⟨_, _, rfl, .inl rfl⟩

/-- The point and the letter of an exponent are no decimal digits. -/
theorem Tail.head (h : Tail fs e w) :
    ∀ c ∈ (w ++ rest).head?, ¬ Digit 10 c ∧ c ∉ ['_', '-', ':', 'x', 'o', 'b'] := by
  obtain ⟨d, v, rfl, hd⟩ := h.exists_eq_cons
  rw [isExponentLetter_iff] at hd
  rintro c hc
  obtain rfl := Option.some.inj hc
  rcases hd with rfl | rfl | rfl <;> decide

/-- **What stands behind the whole part is read.** -/
theorem readAfterWhole_tail (h : Tail fs e w) (hbound : Bounded (signOf negative) ds fs e)
    (hrest : Follows rest) : readAfterWhole negative ds (w ++ rest) = .ok (.float, rest) := by
  cases h with
  | fraction hfs =>
    rw [List.cons_append, readAfterWhole, readDigits_append isDigit_iff hfs hrest.ends]
    exact readAfterFraction_end hbound hrest
  | exponent he =>
    have hread := readAfterFraction_exponent he hbound hrest
    obtain ⟨hc, -, -⟩ := he
    rw [List.cons_append, readAfterWhole, if_pos (isExponentLetter_iff.2 hc)]
    · exact hread
    · rintro rfl
      rcases hc with hc | hc <;> exact absurd hc (by decide)
  | @both fs w v e hfs he =>
    have hread := readAfterFraction_exponent he hbound hrest
    have hhead : ∀ c ∈ (v ++ rest).head?, ¬ Digit 10 c ∧ c ≠ '_' := by
      intro c hc
      obtain ⟨hdigit, hsign⟩ := (Tail.exponent he).head c hc
      exact ⟨hdigit, fun heq => hsign (by rw [heq]; decide)⟩
    rw [List.cons_append, List.append_assoc, readAfterWhole,
      readDigits_append isDigit_iff hfs hhead]
    exact hread

theorem readAfterWhole_end (h : readAfterWhole.signed negative ds = .ok v)
    (hrest : Follows rest) : readAfterWhole negative ds rest = .ok (v, rest) := by
  cases rest with
  | nil =>
    rw [readAfterWhole, h]
    rfl
  | cons c rest =>
    rw [readAfterWhole, hrest.not_exponent c rfl, if_neg Bool.false_ne_true, h]
    · rfl
    · rintro rfl
      exact hrest.not_sign rfl (by decide)

/-- Behind the whole part nothing stands, and it is an integer, or what makes it another number. -/
theorem exists_of_readAfterWhole (h : readAfterWhole negative ds cs = .ok (v, rest)) :
    (readAfterWhole.signed negative ds = .ok v ∧ cs = rest) ∨
      (v = .float ∧ ∃ fs e w, Tail fs e w ∧ Bounded (signOf negative) ds fs e ∧ cs = w ++ rest) := by
  have hend : ∀ {cs : List Char},
      (do return (← readAfterWhole.signed negative ds, cs)) = Except.ok (v, rest) →
      readAfterWhole.signed negative ds = .ok v ∧ cs = rest := by
    intro cs h
    obtain ⟨x, hsigned, h⟩ := exists_of_bind_eq_ok h
    obtain ⟨rfl, rfl⟩ := Prod.mk.inj (Except.ok.inj h)
    exact ⟨hsigned, rfl⟩
  rw [readAfterWhole.eq_def] at h
  split at h
  · obtain ⟨⟨fs, tail⟩, hread, hafter⟩ := exists_of_bind_eq_ok h
    obtain ⟨w, hw, rfl⟩ := exists_digits_of_readDigits isDigit_iff hread
    obtain ⟨hv, e, u, hu, hbound, rfl⟩ := exists_of_readAfterFraction hafter
    rcases hu with ⟨rfl, rfl⟩ | hu
    · exact .inr ⟨hv, fs, 0, _, .fraction hw, hbound, rfl⟩
    · exact .inr ⟨hv, fs, e, _, .both hw hu, hbound, by simp⟩
  · split at h
    · next hc =>
      obtain ⟨hv, e, w, hw, hbound, hcs⟩ := exists_of_readAfterFraction_letter hc h
      exact .inr ⟨hv, [], e, w, .exponent hw, hbound, hcs⟩
    · exact .inl (hend h)
  · exact .inl (hend h)

/-! ## Numbers behind their sign -/

/-- What a number may be written as behind its sign, which its value depends on. -/
inductive Unsigned (s : Int) : Value → List Char → Prop
  | integer {ds w : List Char} : Whole ds w → -2 ^ 63 ≤ s * Text.ofDigits 10 ds →
    s * Text.ofDigits 10 ds < 2 ^ 63 → Unsigned s (.integer (s * Text.ofDigits 10 ds)) w
  | infinity : Unsigned s .float ['i', 'n', 'f']
  | undefined : Unsigned s .float ['n', 'a', 'n']
  | number {e : Int} {ds fs w v : List Char} : Whole ds w → Tail fs e v → Bounded s ds fs e →
    Unsigned s .float (w ++ v)

/-- A zero stands alone in front of the point. -/
theorem Whole.exists_eq_cons (h : Whole ds w) :
    ∃ c v, w = c :: v ∧ Digit 10 c ∧ (c = '0' → v = []) := by
  cases h with
  | zero => exact ⟨_, _, rfl, by decide, fun _ => rfl⟩
  | digits hd h =>
    obtain ⟨c, es, v, hds, rfl, hc⟩ := h.exists_eq_cons
    obtain ⟨rfl, -⟩ := List.cons.inj hds
    exact ⟨_, _, rfl, hc, fun h => absurd h hd⟩

/-- A number begins with a digit or a letter, and a zero is not followed by the sign of a base. -/
theorem Unsigned.exists_eq_cons (h : Unsigned s v w) : ∃ c u, w = c :: u ∧
    (Digit 10 c ∨ c = 'i' ∨ c = 'n') ∧ (c = '0' → ∀ d ∈ u.head?, d ∉ ['x', 'o', 'b']) := by
  cases h with
  | integer h =>
    obtain ⟨c, v, rfl, hc, hzero⟩ := h.exists_eq_cons
    refine ⟨c, v, rfl, .inl hc, fun heq => ?_⟩
    rw [hzero heq]
    exact nofun
  | infinity => exact ⟨_, _, rfl, .inr (.inl rfl), fun heq => absurd heq (by decide)⟩
  | undefined => exact ⟨_, _, rfl, .inr (.inr rfl), fun heq => absurd heq (by decide)⟩
  | @number _ _ _ _ u h htail _ =>
    obtain ⟨c, v, rfl, hc, hzero⟩ := h.exists_eq_cons
    refine ⟨c, v ++ u, rfl, .inl hc, fun heq d hd => ?_⟩
    rw [hzero heq, List.nil_append, ← List.append_nil u] at hd
    have hsign := (htail.head d hd).2
    intro hmem
    exact hsign (by revert hmem; simp only [List.mem_cons]; tauto)

/-- **A number is read behind its sign.** -/
theorem readUnsigned_append (h : Unsigned (signOf negative) v w) (hrest : Follows rest) :
    readUnsigned negative (w ++ rest) = .ok (v, rest) := by
  have hwhole : ∀ {ds w cs : List Char}, Whole ds w → (∀ c ∈ cs.head?, ¬ Digit 10 c ∧ c ≠ '_') →
      readUnsigned negative (w ++ cs) = readAfterWhole negative ds cs := by
    intro ds w cs hw hcs
    have hread := readWhole_append hw hcs
    obtain ⟨c, u, rfl, hc, -⟩ := hw.exists_eq_cons
    rw [List.cons_append] at hread
    rw [List.cons_append, readUnsigned, hread]
    · rfl
    · rintro _ heq
      obtain ⟨rfl, -⟩ := List.cons.inj heq
      exact absurd hc (by decide)
    · rintro _ heq
      obtain ⟨rfl, -⟩ := List.cons.inj heq
      exact absurd hc (by decide)
  cases h with
  | integer hw hleast hmost =>
    rw [hwhole hw hrest.ends]
    refine readAfterWhole_end ?_ hrest
    rw [signed_eq]
    exact integer_eq_ok_iff.2 ⟨⟨hleast, hmost⟩, rfl⟩
  | infinity => rfl
  | undefined => rfl
  | @number e ds fs w u hw htail hbound =>
    have hcs : ∀ c ∈ (u ++ rest).head?, ¬ Digit 10 c ∧ c ≠ '_' := by
      intro c hc
      obtain ⟨hdigit, hsign⟩ := htail.head c hc
      exact ⟨hdigit, fun heq => hsign (by rw [heq]; decide)⟩
    rw [List.append_assoc, hwhole hw hcs]
    exact readAfterWhole_tail htail hbound hrest

theorem exists_unsigned_of_readUnsigned (h : readUnsigned negative cs = .ok (v, rest)) :
    ∃ w, Unsigned (signOf negative) v w ∧ cs = w ++ rest := by
  rw [readUnsigned.eq_def] at h
  split at h
  · obtain ⟨rfl, rfl⟩ := Prod.mk.inj (Except.ok.inj h)
    exact ⟨_, .infinity, rfl⟩
  · obtain ⟨rfl, rfl⟩ := Prod.mk.inj (Except.ok.inj h)
    exact ⟨_, .undefined, rfl⟩
  · obtain ⟨⟨ds, tail⟩, hread, hafter⟩ := exists_of_bind_eq_ok h
    obtain ⟨w, hw, rfl⟩ := exists_whole_of_readWhole hread
    rcases exists_of_readAfterWhole hafter with ⟨hsigned, rfl⟩ | ⟨rfl, fs, e, u, hu, hbound, rfl⟩
    · rw [signed_eq] at hsigned
      obtain ⟨⟨hleast, hmost⟩, rfl⟩ := integer_eq_ok_iff.1 hsigned
      exact ⟨w, .integer hw hleast hmost, rfl⟩
    · exact ⟨w ++ u, .number hw hu hbound, by rw [List.append_assoc]⟩

end

/-! ## Numbers -/

/-- A number with its sign. -/
theorem Unsigned.plain {a : List Char} (hs : Sign s a) (h : Unsigned s v w) : Plain v (a ++ w) := by
  cases h with
  | integer hw hleast hmost => exact .integer (.decimal hs hw) hleast hmost
  | infinity => exact .float (.infinity hs)
  | undefined => exact .float (.undefined hs)
  | number hw htail hbound => exact .float (.number hs hw htail hbound)

/-- A number without a sign is not taken for one with a sign, or in another base. -/
theorem readNumber_unsigned (h : Unsigned s v w) (hrest : Follows rest) :
    readNumber (w ++ rest) = readUnsigned false (w ++ rest) := by
  obtain ⟨c, u, rfl, hc, hzero⟩ := h.exists_eq_cons
  have hsign : c ≠ '+' ∧ c ≠ '-' := by
    constructor <;> rintro rfl <;> exact absurd hc (by decide)
  have hbase : ∀ x ∈ ['x', 'o', 'b'], ∀ cs, c :: (u ++ rest) ≠ '0' :: x :: cs := by
    intro x hx cs heq
    obtain ⟨rfl, htail⟩ := List.cons.inj heq
    cases u with
    | nil =>
      have hsigns : ∀ x ∈ ['x', 'o', 'b'],
          x ∈ ['.', 'e', 'E', '_', '-', '+', ':', 'x', 'o', 'b', 'T', 't', 'Z', 'z', '"', '\''] :=
        List.all_iff_forall_prop.1 (by decide)
      exact hrest.not_sign (congrArg List.head? htail) (hsigns x hx)
    | cons d u =>
      obtain ⟨rfl, -⟩ := List.cons.inj htail
      exact hzero rfl d rfl hx
  rw [List.cons_append, readNumber]
  · exact fun _ heq => hsign.1 (List.cons.inj heq).1
  · exact fun _ heq => hsign.2 (List.cons.inj heq).1
  · exact hbase 'x' (by decide)
  · exact hbase 'o' (by decide)
  · exact hbase 'b' (by decide)

theorem readNumber_signed {a : List Char} (hs : Sign s a) (h : Unsigned s v w)
    (hrest : Follows rest) : readNumber (a ++ (w ++ rest)) = .ok (v, rest) := by
  cases hs with
  | none =>
    rw [List.nil_append, readNumber_unsigned h hrest]
    exact readUnsigned_append h hrest
  | plus =>
    change readUnsigned false (w ++ rest) = _
    exact readUnsigned_append h hrest
  | minus =>
    change readUnsigned true (w ++ rest) = _
    exact readUnsigned_append h hrest

/-- **Digits of a base are read behind its sign.** -/
theorem readIn_append {ok : Char → Bool} (hok : ∀ {c : Char}, ok c = true ↔ Digit base c)
    (h : Digits base ds w) (hmost : (Text.ofDigits base ds : Int) < 2 ^ 63) (hrest : Follows rest) :
    readIn base ok (w ++ rest) = .ok (.integer (Text.ofDigits base ds), rest) := by
  have hinteger : integer (Text.ofDigits base ds) = .ok (.integer (Text.ofDigits base ds)) :=
    integer_eq_ok_iff.2 ⟨⟨by omega, hmost⟩, rfl⟩
  simp only [readIn, readDigits_append hok h hrest.ends, bind, Except.bind, hinteger]
  rfl

theorem exists_digits_of_readIn {ok : Char → Bool} (hok : ∀ {c : Char}, ok c = true ↔ Digit base c)
    (h : readIn base ok cs = .ok (v, rest)) : ∃ ds w, Digits base ds w ∧
      (Text.ofDigits base ds : Int) < 2 ^ 63 ∧ v = .integer (Text.ofDigits base ds) ∧
      cs = w ++ rest := by
  obtain ⟨⟨ds, tail⟩, hread, h⟩ := exists_of_bind_eq_ok h
  obtain ⟨x, hinteger, h⟩ := exists_of_bind_eq_ok h
  obtain ⟨rfl, rfl⟩ := Prod.mk.inj (Except.ok.inj h)
  obtain ⟨⟨-, hmost⟩, rfl⟩ := integer_eq_ok_iff.1 hinteger
  obtain ⟨w, hw, rfl⟩ := exists_digits_of_readDigits hok hread
  exact ⟨ds, w, hw, hmost, rfl, rfl⟩

theorem readNumber_based {x : Char} (hx : (x, base) ∈ [('x', 16), ('o', 8), ('b', 2)])
    (h : Digits base ds w) (hmost : (Text.ofDigits base ds : Int) < 2 ^ 63) (hrest : Follows rest) :
    readNumber ('0' :: x :: (w ++ rest)) = .ok (.integer (Text.ofDigits base ds), rest) := by
  simp only [List.mem_cons, Prod.mk.injEq, List.not_mem_nil, or_false] at hx
  rcases hx with ⟨rfl, rfl⟩ | ⟨rfl, rfl⟩ | ⟨rfl, rfl⟩
  · exact readIn_append isHexDigit_iff h hmost hrest
  · exact readIn_append octal_iff h hmost hrest
  · exact readIn_append binary_iff h hmost hrest

/-- **What is read as a number is written so.** -/
theorem exists_plain_of_readNumber (h : readNumber cs = .ok (v, rest)) :
    ∃ w, Plain v w ∧ cs = w ++ rest := by
  have hbased : ∀ {x : Char} {base : Nat} {ok : Char → Bool} {cs : List Char},
      (x, base) ∈ [('x', 16), ('o', 8), ('b', 2)] → (∀ {c : Char}, ok c = true ↔ Digit base c) →
      readIn base ok cs = .ok (v, rest) → ∃ w, Plain v w ∧ '0' :: x :: cs = w ++ rest := by
    intro x base ok cs hx hok h
    obtain ⟨ds, w, hw, hmost, rfl, rfl⟩ := exists_digits_of_readIn hok h
    exact ⟨_, .integer (.based hx hw) (by omega) hmost, rfl⟩
  rw [readNumber.eq_def] at h
  split at h
  · obtain ⟨w, hw, rfl⟩ := exists_unsigned_of_readUnsigned h
    exact ⟨_, hw.plain .plus, rfl⟩
  · obtain ⟨w, hw, rfl⟩ := exists_unsigned_of_readUnsigned h
    exact ⟨_, hw.plain .minus, rfl⟩
  · exact hbased (by decide) isHexDigit_iff h
  · exact hbased (by decide) octal_iff h
  · exact hbased (by decide) binary_iff h
  · obtain ⟨w, hw, rfl⟩ := exists_unsigned_of_readUnsigned h
    exact ⟨_, hw.plain .none, rfl⟩

end Toml
end VarStore
