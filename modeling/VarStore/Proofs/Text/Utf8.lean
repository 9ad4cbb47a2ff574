import Mathlib.Algebra.Group.Nat.Defs

/-!
# The order of texts and the order of their bytes

Texts are compared by their characters, and a sorted list of names is sorted in that sense.  It is
also sorted by the bytes of the names in UTF-8, because of the way in which UTF-8 is laid out.  The
first byte of a longer character is larger than that of any shorter one, and of two characters of
the same length the larger one has the larger byte where their bytes differ first: the bytes are the
digits of the character, six bits to a digit, with the highest digit in front.

* `spell`: a number as a first byte and a row of bytes with six bits each.
* `utf8EncodeChar_eq_spell`: characters are spelled that way.
* `le_of_mem_utf8EncodeChar`: a byte in ASCII is a character of its own, and no part of another one.
* `bytes_lt_bytes`: of two texts the smaller one has the smaller bytes.
-/

namespace VarStore
namespace Text

/-- The bytes of a text in UTF-8. -/
def bytes (s : String) : List UInt8 := s.toUTF8.data.toList

theorem bytes_eq_flatMap (s : String) : bytes s = s.toList.flatMap String.utf8EncodeChar := by
  unfold bytes
  rw [String.toUTF8_eq_toByteArray, ← String.utf8Encode_toList, List.utf8Encode,
    List.toList_data_toByteArray]

/-! ## Spelling a number -/

/-- A number, spelled with `n` bytes behind the first one.  The first byte is marked by what is
added to it, and the others by their highest bit. -/
def spell (mark : Nat) : Nat → Nat → List UInt8
  | 0, v => [UInt8.ofNat (v + mark)]
  | n + 1, v => spell mark n (v / 64) ++ [UInt8.ofNat (v % 64 + 0x80)]

theorem ofNat_cons_lt {m n : Nat} (hmn : m < n) (hn : n < 256) (x y : List UInt8) :
    UInt8.ofNat m :: x < UInt8.ofNat n :: y := by
  rw [List.cons_lt_cons_iff, UInt8.lt_iff_toNat_lt, UInt8.toNat_ofNat_of_lt' (Nat.lt_trans hmn hn),
    UInt8.toNat_ofNat_of_lt' hn]
  exact .inl hmn

/-- The first byte has what the others leave of the number. -/
theorem exists_spell_eq_cons (mark n v : Nat) :
    ∃ x, spell mark n v = UInt8.ofNat (v / 64 ^ n + mark) :: x := by
  induction n generalizing v with
  | zero => exact ⟨[], by rw [Nat.pow_zero, Nat.div_one]; rfl⟩
  | succ n ih =>
    obtain ⟨x, hx⟩ := ih (v / 64)
    refine ⟨x ++ [UInt8.ofNat (v % 64 + 0x80)], ?_⟩
    rw [spell, hx, Nat.pow_succ', Nat.div_div_eq_div_mul, List.cons_append]

/-- **Numbers that are spelled with the same number of bytes.**  Either the numbers differ without
their last six bits, and then the bytes in front do, or those bytes are equal and the last one
decides. -/
theorem spell_lt_spell {mark n v w : Nat} (hvw : v < w) (hw : w / 64 ^ n + mark < 256)
    (x y : List UInt8) : spell mark n v ++ x < spell mark n w ++ y := by
  induction n generalizing v w x y with
  | zero =>
    rw [Nat.pow_zero, Nat.div_one] at hw
    exact ofNat_cons_lt (by omega) hw x y
  | succ n ih =>
    rw [spell, spell, List.append_assoc, List.append_assoc]
    rw [Nat.pow_succ', ← Nat.div_div_eq_div_mul] at hw
    by_cases hfront : v / 64 < w / 64
    · exact ih hfront hw _ _
    · have hsame : v / 64 = w / 64 := by omega
      rw [hsame]
      exact List.append_left_lt (ofNat_cons_lt (by omega) (by omega) x y)

/-- Numbers of which one has the smaller first byte. -/
theorem spell_lt_spell_of_first {mark mark' m n v w : Nat}
    (hfirst : v / 64 ^ m + mark < w / 64 ^ n + mark') (hw : w / 64 ^ n + mark' < 256)
    (x y : List UInt8) : spell mark m v ++ x < spell mark' n w ++ y := by
  obtain ⟨x', hx'⟩ := exists_spell_eq_cons mark m v
  obtain ⟨y', hy'⟩ := exists_spell_eq_cons mark' n w
  rw [hx', hy']
  exact ofNat_cons_lt hfirst hw _ _

/-! ## Spelling a character -/

/-- How many bytes a character has behind the first one. -/
def followers (v : Nat) : Nat :=
  if v ≤ 0x7f then 0 else if v ≤ 0x7ff then 1 else if v ≤ 0xffff then 2 else 3

/-- How the first byte of a character is marked, by the number of bytes that follow. -/
def firstMark : Nat → Nat
  | 0 => 0
  | 1 => 0xc0
  | 2 => 0xe0
  | _ => 0xf0

theorem followers_cases (v : Nat) :
    (v ≤ 0x7f ∧ followers v = 0) ∨ (0x7f < v ∧ v ≤ 0x7ff ∧ followers v = 1) ∨
      (0x7ff < v ∧ v ≤ 0xffff ∧ followers v = 2) ∨ (0xffff < v ∧ followers v = 3) := by
  unfold followers
  split
  · omega
  · split
    · omega
    · split <;> omega

theorem toNat_lt (c : Char) : c.toNat < 0x110000 := by
  rcases c.valid with hlow | ⟨-, hhigh⟩
  · exact Nat.lt_trans hlow (by omega)
  · exact hhigh

/-- **Characters are spelled numbers.** -/
theorem utf8EncodeChar_eq_spell (c : Char) :
    String.utf8EncodeChar c =
      spell (firstMark (followers c.toNat)) (followers c.toNat) c.toNat := by
  have hlt := toNat_lt c
  have hval : c.val.toNat = c.toNat := rfl
  unfold String.utf8EncodeChar
  rw [hval]
  generalize c.toNat = v at hlt ⊢
  dsimp only
  rcases followers_cases v with ⟨hv, hn⟩ | ⟨hl, hv, hn⟩ | ⟨hl, hv, hn⟩ | ⟨hl, hn⟩ <;> rw [hn]
  · rw [if_pos hv]
    rfl
  · have hfront : v / 64 % 0x20 = v / 64 := by omega
    rw [if_neg (by omega), if_pos hv, hfront]
    rfl
  · have hfront : v / 4096 % 0x10 = v / 64 / 64 := by omega
    rw [if_neg (by omega), if_neg (by omega), if_pos hv, hfront]
    rfl
  · have hfront : v / 262144 % 0x08 = v / 64 / 64 / 64 := by omega
    have hnext : v / 4096 = v / 64 / 64 := by omega
    rw [if_neg (by omega), if_neg (by omega), if_neg (by omega), hfront, hnext]
    rfl

/-- The first byte of a character. -/
def firstByte (v : Nat) : Nat := v / 64 ^ followers v + firstMark (followers v)

/-- Each number of followers has a range of first bytes of its own. -/
theorem firstByte_cases {v : Nat} (hv : v < 0x110000) :
    (v ≤ 0x7f ∧ followers v = 0 ∧ firstByte v < 0x80) ∨
    (0x7f < v ∧ v ≤ 0x7ff ∧ followers v = 1 ∧ 0xc0 ≤ firstByte v ∧ firstByte v < 0xe0) ∨
    (0x7ff < v ∧ v ≤ 0xffff ∧ followers v = 2 ∧ 0xe0 ≤ firstByte v ∧ firstByte v < 0xf0) ∨
    (0xffff < v ∧ followers v = 3 ∧ 0xf0 ≤ firstByte v ∧ firstByte v < 256) := by
  rcases followers_cases v with ⟨hv, hn⟩ | ⟨hl, hv, hn⟩ | ⟨hl, hv, hn⟩ | ⟨hl, hn⟩
  · have hbyte : firstByte v = v := by simp [firstByte, hn, firstMark]
    omega
  · have hbyte : firstByte v = v / 64 + 0xc0 := by simp [firstByte, hn, firstMark]
    omega
  · have hbyte : firstByte v = v / 4096 + 0xe0 := by simp [firstByte, hn, firstMark]
    omega
  · have hbyte : firstByte v = v / 262144 + 0xf0 := by simp [firstByte, hn, firstMark]
    omega

/-- A character of ASCII is its own byte. -/
theorem utf8EncodeChar_of_lt {c : Char} (hc : c.toNat < 0x80) :
    String.utf8EncodeChar c = [UInt8.ofNat c.toNat] := by
  have hfew := followers_cases c.toNat
  have hn : followers c.toNat = 0 := by omega
  rw [utf8EncodeChar_eq_spell, hn]
  rfl

/-- The bytes of a spelled number are the first one and bytes with the highest bit. -/
theorem mem_spell {mark n v : Nat} {b : UInt8} (hb : b ∈ spell mark n v) :
    b = UInt8.ofNat (v / 64 ^ n + mark) ∨ 0x80 ≤ b.toNat := by
  induction n generalizing v with
  | zero =>
    rw [Nat.pow_zero, Nat.div_one]
    exact Or.inl (List.mem_singleton.1 hb)
  | succ n ih =>
    rw [spell, List.mem_append, List.mem_singleton] at hb
    rcases hb with hb | rfl
    · rw [Nat.pow_succ', ← Nat.div_div_eq_div_mul]
      exact ih hb
    · refine Or.inr ?_
      rw [UInt8.toNat_ofNat_of_lt' (by change _ < 256; omega)]
      omega

/-- **No byte of another character is in ASCII.** -/
theorem le_of_mem_utf8EncodeChar {c : Char} (hc : 0x80 ≤ c.toNat) {b : UInt8}
    (hb : b ∈ String.utf8EncodeChar c) : 0x80 ≤ b.toNat := by
  rw [utf8EncodeChar_eq_spell] at hb
  have hfirst := firstByte_cases (toNat_lt c)
  rcases mem_spell hb with rfl | hb
  · change 0x80 ≤ (UInt8.ofNat (firstByte c.toNat)).toNat
    rw [UInt8.toNat_ofNat_of_lt' (by change _ < 256; omega)]
    omega
  · exact hb

/-- **The smaller character has the smaller bytes**, whatever comes behind them. -/
theorem utf8EncodeChar_lt {c d : Char} (hcd : c < d) (x y : List UInt8) :
    String.utf8EncodeChar c ++ x < String.utf8EncodeChar d ++ y := by
  have hlt : c.toNat < d.toNat := hcd
  have hc := firstByte_cases (toNat_lt c)
  have hd := firstByte_cases (toNat_lt d)
  rw [utf8EncodeChar_eq_spell, utf8EncodeChar_eq_spell]
  have hbyte : firstByte d.toNat < 256 := by omega
  by_cases hsame : followers c.toNat = followers d.toNat
  · rw [hsame]
    exact spell_lt_spell hlt hbyte x y
  · have hfirst : firstByte c.toNat < firstByte d.toNat := by omega
    exact spell_lt_spell_of_first hfirst hbyte x y

theorem flatMap_utf8EncodeChar_lt {l m : List Char} (hlm : List.Lex (· < ·) l m) :
    l.flatMap String.utf8EncodeChar < m.flatMap String.utf8EncodeChar := by
  induction hlm with
  | @nil c m =>
    rw [List.flatMap_nil, List.flatMap_cons]
    rw [utf8EncodeChar_eq_spell]
    obtain ⟨x, hx⟩ :=
      exists_spell_eq_cons (firstMark (followers c.toNat)) (followers c.toNat) c.toNat
    rw [hx]
    exact List.Lex.nil
  | rel hcd => exact utf8EncodeChar_lt hcd _ _
  | cons _ ih => exact List.append_left_lt ih

/-- **The smaller text has the smaller bytes.** -/
theorem bytes_lt_bytes {s t : String} (hst : s < t) : bytes s < bytes t := by
  rw [bytes_eq_flatMap, bytes_eq_flatMap]
  exact flatMap_utf8EncodeChar_lt (String.lt_iff.1 hst)

end Text
end VarStore
