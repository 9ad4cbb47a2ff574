import VarStore.Json.Reader
import VarStore.Json.Value
import VarStore.Proofs.Text.Digits

/-!
# Strings in JSON

What is printed between quotes is read back, whatever it is: quotes, backslashes, control characters,
characters beyond the first plane, and anything that looks like the end of the string or like an
escape.  The reader need not know where the string ends, and it leaves what is behind the string.

A character is spelled in one of three ways (`escapeChar_cases`): by a backslash and a letter, by a
backslash and its code, or by itself.  The reader tells them apart by their first two signs, so one
lemma for each way is all there is to it, and a string is read character by character
(`readString_flatMap_escapeChar`).

* `readString_letter`, `readString_code`, `readString_self`: reading one character.
* `readString_flatMap_escapeChar`, `expectString_quote`: reading a string.
-/

namespace VarStore
namespace Json

/-! ## Blanks -/

/-- There are no blanks in front of something else. -/
theorem skipBlanks_cons_of_not_isBlank {c : Char} (h : isBlank c = false) (cs : List Char) :
    skipBlanks (c :: cs) = c :: cs := by
  rw [skipBlanks, List.dropWhile_cons, h, if_neg Bool.false_ne_true]

/-! ## Reading one character -/

theorem readString_letter {l c : Char} (h : letterEscape? l = some c) (cs : List Char) :
    readString ('\\' :: l :: cs) = prepend c (readString cs) := by
  have hl : l ≠ 'u' := by
    rintro rfl
    cases h
  rw [readString, h]
  intro _ _ _ _ _ hu
  exact absurd hu hl

/-- Four hexadecimal digits stand for a character if they are no half of a surrogate pair. -/
theorem readString_code {n : Nat} {a b c d : Char} (h : Text.ofHex? [a, b, c, d] = some n)
    (hlow : isLow n = false) (hhigh : isHigh n = false) (cs : List Char) :
    readString ('\\' :: 'u' :: a :: b :: c :: d :: cs) = prepend (Char.ofNat n) (readString cs) := by
  rw [readString, h]
  simp only [hlow, hhigh, Bool.false_eq_true, if_false]

theorem readString_self {c : Char} (hquote : c ≠ '"') (hslash : c ≠ '\\') (hc : 0x20 ≤ c.toNat)
    (cs : List Char) : readString (c :: cs) = prepend c (readString cs) := by
  have hplain : ¬ (c.toNat < 0x20 ∨ c = '\\') := by
    rintro (h | h)
    · omega
    · exact hslash h
  rw [readString, if_neg hplain]
  -- none of the rows before the last one matches
  · exact hquote
  · exact fun _ _ _ _ _ h => absurd h hslash
  · exact fun _ _ h => absurd h hslash

/-! ## How a character is spelled -/

/-- **The three ways to spell a character.** -/
theorem escapeChar_cases (c : Char) :
    (∃ l, escapeChar c = ['\\', l] ∧ letterEscape? l = some c) ∨
      (c.toNat < 0x20 ∧ escapeChar c =
        ['\\', 'u', '0', '0', Nat.digitChar (c.toNat / 16), Nat.digitChar (c.toNat % 16)]) ∨
      (c ≠ '"' ∧ c ≠ '\\' ∧ 0x20 ≤ c.toNat ∧ escapeChar c = [c]) := by
  by_cases hletter : c ∈ ['"', '\\', '\n', '\r', '\t', '\x08', '\x0c']
  · simp only [List.mem_cons, List.not_mem_nil, or_false] at hletter
    rcases hletter with rfl | rfl | rfl | rfl | rfl | rfl | rfl <;> exact Or.inl ⟨_, rfl, rfl⟩
  · simp only [List.mem_cons, List.not_mem_nil, or_false, not_or] at hletter
    obtain ⟨hquote, hslash, hn, hr, ht, hb, hf⟩ := hletter
    have hrest : escapeChar c = if c.toNat < 0x20 then
        ['\\', 'u', '0', '0', Nat.digitChar (c.toNat / 16), Nat.digitChar (c.toNat % 16)]
        else [c] := by
      rw [escapeChar, if_neg hquote, if_neg hslash, if_neg hn, if_neg hr, if_neg ht, if_neg hb,
        if_neg hf]
    by_cases hc : c.toNat < 0x20
    · exact Or.inr (Or.inl ⟨hc, by rw [hrest, if_pos hc]⟩)
    · exact Or.inr (Or.inr ⟨hquote, hslash, Nat.le_of_not_lt hc, by rw [hrest, if_neg hc]⟩)

theorem isSurrogate_of_lt {n : Nat} (h : n < 0x20) : isLow n = false ∧ isHigh n = false := by
  constructor
  · rw [isLow, decide_eq_false (show ¬ 0xDC00 ≤ n by omega), Bool.false_and]
  · rw [isHigh, decide_eq_false (show ¬ 0xD800 ≤ n by omega), Bool.false_and]

/-- **Spelling a character and reading it.** -/
theorem readString_escapeChar_append (c : Char) (cs : List Char) :
    readString (escapeChar c ++ cs) = prepend c (readString cs) := by
  rcases escapeChar_cases c with ⟨l, hc, hl⟩ | ⟨hcode, hc⟩ | ⟨hquote, hslash, hcode, hc⟩
  · rw [hc]
    exact readString_letter hl cs
  · obtain ⟨hlow, hhigh⟩ := isSurrogate_of_lt hcode
    have hread := readString_code (Text.ofHex?_of_lt c.toNat (by omega)) hlow hhigh cs
    rw [Char.ofNat_toNat] at hread
    rw [hc]
    exact hread
  · rw [hc]
    exact readString_self hquote hslash hcode cs

/-! ## Reading a string -/

/-- **Spelling a string and reading it.**  The induction is on the string. -/
theorem readString_flatMap_escapeChar (s rest : List Char) :
    readString (s.flatMap escapeChar ++ '"' :: rest) = .ok (s, rest) := by
  induction s with
  | nil => rfl
  | cons c s ih =>
    rw [List.flatMap_cons, List.append_assoc, readString_escapeChar_append, ih]
    rfl

theorem quote_append (s rest : List Char) :
    quote s ++ rest = '"' :: (s.flatMap escapeChar ++ '"' :: rest) := by
  rw [quote, List.cons_append, List.cons_append, List.append_assoc, List.singleton_append]

theorem skipBlanks_quote_append (s rest : List Char) :
    skipBlanks (quote s ++ rest) = quote s ++ rest := by
  rw [quote_append, skipBlanks_cons_of_not_isBlank (by decide)]

/-- A string between quotes is read where one is asked for. -/
theorem expectString_quote (s rest : List Char) :
    expectString (quote s ++ rest) = .ok (s, rest) := by
  rw [quote_append, expectString, skipBlanks_cons_of_not_isBlank (by decide)]
  exact readString_flatMap_escapeChar s rest

end Json
end VarStore
