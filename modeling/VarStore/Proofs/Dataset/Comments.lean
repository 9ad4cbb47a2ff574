import VarStore.Dataset.Lines
import VarStore.Proofs.Text.Utf8

/-!
# Comments and patterns

Whether a line is a comment is a matter of its first character that is no blank.  It is found out in
another way: by looking for the first number sign, wherever it is, and then at everything in front of it.
And it may be found out from the bytes of the line in UTF-8, by looking for the first byte that is the one
of a number sign, cutting the line there and looking at the bytes in front of the cut.

All of these come to the same.  A line with a number sign in it has a first one, and so the line is split
into what is in front of it and what is behind it; a line without one is a pattern, unless it is empty.
What is behind the first number sign is never looked at.  The bytes of characters outside ASCII are no
bytes of ASCII characters (`Text.le_of_mem_utf8EncodeChar`), so the bytes in front of the first number sign
have no number sign among them, and they are blanks exactly if the characters are.

* `blanks`: the characters that may stand in front of the sign of a comment.
* `isCommentBytes`: the test made on bytes.
* `comments_begin_with_a_sign`: what comments and patterns are, and that bytes tell them apart.
-/

namespace VarStore
namespace Dataset

variable {c : Char} {line front rest : String}

/-- The characters that may stand in front of the sign of a comment. -/
def blanks : List Char := [' ', '\t', '\n', '\x0b', '\x0c', '\r']

theorem isBlank_iff : isBlank c = true ↔ c ∈ blanks := by
  simp [isBlank, blanks, or_assoc]

/-! ## The first number sign -/

theorem exists_eq_append_sign (h : '#' ∈ line.toList) :
    ∃ front rest, line = front ++ "#" ++ rest ∧ '#' ∉ front.toList := by
  obtain ⟨as, bs, hchars, has⟩ := List.eq_append_cons_of_mem h
  refine ⟨String.ofList as, String.ofList bs, ?_, by rwa [String.toList_ofList]⟩
  rw [← String.toList_inj, hchars]
  simp

theorem toList_append_sign (front rest : String) :
    (front ++ "#" ++ rest).toList = front.toList ++ '#' :: rest.toList := by
  simp

theorem append_sign_ne_empty (front rest : String) : front ++ "#" ++ rest ≠ "" := by
  simp

/-- What stands in front of the first number sign decides. -/
theorem isComment_append_sign (hfront : '#' ∉ front.toList) (rest : String) :
    isComment (front ++ "#" ++ rest) = true ↔ ∀ c ∈ front.toList, c ∈ blanks := by
  have hne : ∀ c ∈ front.toList, decide (c ≠ '#') = true := by
    intro c hc
    exact decide_eq_true fun e => hfront (e ▸ hc)
  have hbefore : beforeSign? (front.toList ++ '#' :: rest.toList) = some front.toList := by
    rw [beforeSign?, if_pos (by simp), List.takeWhile_append_of_pos hne,
      List.takeWhile_cons_of_neg (by simp), List.append_nil]
  rw [isComment, toList_append_sign, isCommentLine, hbefore]
  simp [isBlank_iff]

/-- Without a number sign there is no comment but the empty line. -/
theorem isComment_of_notMem (h : '#' ∉ line.toList) : isComment line = true ↔ line = "" := by
  rw [isComment, isCommentLine, beforeSign?, if_neg h]
  simp

/-- A front of blanks is passed over, and no other one. -/
theorem head?_dropWhile_append_sign {front rest : List Char} (hfront : '#' ∉ front) :
    ((front ++ '#' :: rest).dropWhile (· ∈ blanks)).head? = some '#' ↔
      ∀ c ∈ front, c ∈ blanks := by
  induction front with
  | nil => simp [blanks]
  | cons d front ih =>
    rw [List.mem_cons, not_or] at hfront
    by_cases hd : d ∈ blanks
    · rw [List.cons_append, List.dropWhile_cons_of_pos (by simpa using hd), ih hfront.2,
        List.forall_mem_cons, and_iff_right hd]
    · have hsign : d ≠ '#' := Ne.symm hfront.1
      rw [List.cons_append, List.dropWhile_cons_of_neg (by simpa using hd)]
      simp [hd, hsign]

/-- **A comment is empty, or its first character that is no blank is a number sign.** -/
theorem isComment_iff (line : String) :
    isComment line = true ↔
      line = "" ∨ (line.toList.dropWhile (· ∈ blanks)).head? = some '#' := by
  by_cases h : '#' ∈ line.toList
  · obtain ⟨front, rest, rfl, hfront⟩ := exists_eq_append_sign h
    rw [isComment_append_sign hfront, toList_append_sign, head?_dropWhile_append_sign hfront,
      or_iff_right (append_sign_ne_empty front rest)]
  · have hhead : (line.toList.dropWhile (· ∈ blanks)).head? ≠ some '#' := by
      intro hhead
      exact h (List.dropWhile_sublist _ |>.subset (List.mem_of_mem_head? hhead))
    rw [isComment_of_notMem h, or_iff_left hhead]

/-! ## Looking at bytes -/

/-- Is this the byte of a blank? -/
def isBlankByte (b : UInt8) : Bool :=
  b = 0x20 || b = 0x09 || b = 0x0a || b = 0x0b || b = 0x0c || b = 0x0d

/-- The position of the first byte that is the one of a number sign. -/
def signByte? (line : String) : Option Nat := (Text.bytes line).findIdx? (· = 0x23)

/-- Does the line carry no pattern, by its bytes? -/
def isCommentBytes (line : String) : Bool :=
  line.isEmpty ||
    match signByte? line with
    | some n => ((Text.bytes line).take n).all isBlankByte
    | none => false

theorem bytes_append (s t : String) : Text.bytes (s ++ t) = Text.bytes s ++ Text.bytes t := by
  simp [Text.bytes_eq_flatMap]

theorem bytes_append_sign (front rest : String) :
    Text.bytes (front ++ "#" ++ rest) = Text.bytes front ++ 0x23 :: Text.bytes rest := by
  rw [bytes_append, bytes_append, List.append_assoc]
  rfl

theorem take_bytes_append_sign (front rest : String) :
    (Text.bytes (front ++ "#" ++ rest)).take (Text.bytes front).length = Text.bytes front := by
  rw [bytes_append_sign, List.take_left]

/-- The byte of a number sign is found in the number sign only. -/
theorem sign_notMem_bytes (h : '#' ∉ line.toList) : (0x23 : UInt8) ∉ Text.bytes line := by
  rw [Text.bytes_eq_flatMap, List.mem_flatMap]
  rintro ⟨c, hc, hb⟩
  by_cases hascii : c.toNat < 0x80
  · rw [Text.utf8EncodeChar_of_lt hascii, List.mem_singleton] at hb
    have hcode : c.toNat = '#'.toNat := by
      have htoNat := congrArg UInt8.toNat hb
      rw [UInt8.toNat_ofNat_of_lt' (by change _ < 256; omega)] at htoNat
      exact htoNat.symm
    exact h (Char.toNat_inj.1 hcode ▸ hc)
  · exact absurd (Text.le_of_mem_utf8EncodeChar (Nat.le_of_not_lt hascii) hb) (by decide)

theorem signByte?_of_notMem (h : '#' ∉ line.toList) : signByte? line = none := by
  refine List.findIdx?_eq_none_iff.2 fun b hb => decide_eq_false ?_
  rintro rfl
  exact sign_notMem_bytes h hb

/-- **The byte of the first number sign is where the characters in front of it end.** -/
theorem signByte?_append_sign (hfront : '#' ∉ front.toList) (rest : String) :
    signByte? (front ++ "#" ++ rest) = some (Text.bytes front).length := by
  have hnone := signByte?_of_notMem hfront
  rw [signByte?] at hnone ⊢
  rw [bytes_append_sign, List.findIdx?_append, hnone, List.findIdx?_cons]
  simp

/-- The bytes of blanks in ASCII. -/
theorem isBlankByte_ofNat : ∀ n < 0x80,
    isBlankByte (UInt8.ofNat n) = decide (Char.ofNat n ∈ blanks) := by
  decide

theorem toNat_lt_of_isBlankByte {b : UInt8} (h : isBlankByte b = true) : b.toNat < 0x80 := by
  simp only [isBlankByte, Bool.or_eq_true, decide_eq_true_eq] at h
  rcases h with ((((rfl | rfl) | rfl) | rfl) | rfl) | rfl <;> decide

theorem toNat_lt_of_mem_blanks (h : c ∈ blanks) : c.toNat < 0x80 := by
  simp only [blanks, List.mem_cons, List.not_mem_nil, or_false] at h
  rcases h with rfl | rfl | rfl | rfl | rfl | rfl <;> decide

/-- The bytes of a character are blanks exactly if the character is one. -/
theorem all_isBlankByte_utf8EncodeChar (c : Char) :
    (String.utf8EncodeChar c).all isBlankByte = true ↔ c ∈ blanks := by
  by_cases hascii : c.toNat < 0x80
  · rw [Text.utf8EncodeChar_of_lt hascii, List.all_cons, List.all_nil, Bool.and_true,
      isBlankByte_ofNat c.toNat hascii, Char.ofNat_toNat, decide_eq_true_eq]
  · have hfar : 0x80 ≤ c.toNat := Nat.le_of_not_lt hascii
    constructor
    · intro hall
      obtain ⟨b, hb⟩ := List.exists_mem_of_ne_nil (String.utf8EncodeChar c) (by simp)
      have hlow := toNat_lt_of_isBlankByte (List.all_eq_true.1 hall b hb)
      exact absurd (Text.le_of_mem_utf8EncodeChar hfar hb) (Nat.not_le_of_lt hlow)
    · intro hblank
      exact absurd (toNat_lt_of_mem_blanks hblank) hascii

theorem all_isBlankByte_bytes (s : String) :
    (Text.bytes s).all isBlankByte = true ↔ ∀ c ∈ s.toList, c ∈ blanks := by
  rw [Text.bytes_eq_flatMap, List.all_flatMap, List.all_eq_true]
  simp only [all_isBlankByte_utf8EncodeChar]

/-- **Bytes tell comments from patterns.** -/
theorem isCommentBytes_eq (line : String) : isCommentBytes line = isComment line := by
  rw [Bool.eq_iff_iff, isCommentBytes]
  by_cases h : '#' ∈ line.toList
  · obtain ⟨front, rest, rfl, hfront⟩ := exists_eq_append_sign h
    rw [isComment_append_sign hfront, signByte?_append_sign hfront]
    simp only [take_bytes_append_sign]
    rw [String.isEmpty_eq_false_iff.2 (append_sign_ne_empty front rest), Bool.false_or,
      all_isBlankByte_bytes]
  · rw [isComment_of_notMem h, signByte?_of_notMem h]
    simp

/-- **Cutting a line in front of the byte of its first number sign** leaves the characters that stand in
front of it. -/
theorem exists_of_signByte? {n : Nat} (h : signByte? line = some n) :
    (String.Pos.Raw.mk n).IsValid line ∧
      ∃ front rest, line = front ++ "#" ++ rest ∧ '#' ∉ front.toList ∧
        (Text.bytes line).take n = Text.bytes front := by
  by_cases hsign : '#' ∈ line.toList
  · obtain ⟨front, rest, rfl, hfront⟩ := exists_eq_append_sign hsign
    rw [signByte?_append_sign hfront] at h
    obtain rfl := Option.some.inj h
    refine ⟨?_, front, rest, rfl, hfront, take_bytes_append_sign front rest⟩
    rw [String.Pos.Raw.isValid_iff_exists_append]
    exact ⟨front, "#" ++ rest, String.append_assoc, rfl⟩
  · rw [signByte?_of_notMem hsign] at h
    cases h

/-! ## All of it together -/

/-- **A comment is empty, or a number sign is its first character that is no blank.**  So a line of blanks
is a pattern, and of a line with a number sign in it only what stands in front of the first one counts: if
there is anything else than blanks the line is a pattern, and what is behind the sign makes no difference.
The same is found out from the bytes of the line, which is cut for this in front of the first number sign
and never within a character. -/
theorem comments_begin_with_a_sign (line : String) :
    (isComment line = true ↔
      line = "" ∨ (line.toList.dropWhile (· ∈ blanks)).head? = some '#') ∧
    (line ≠ "" → (∀ c ∈ line.toList, c ∈ blanks) → isComment line = false) ∧
    (∀ front rest : String, line = front ++ "#" ++ rest → '#' ∉ front.toList →
      (isComment line = true ↔ ∀ c ∈ front.toList, c ∈ blanks) ∧
      ∀ rest' : String, isComment (front ++ "#" ++ rest') = isComment line) ∧
    isCommentBytes line = isComment line ∧
    ∀ n, signByte? line = some n → (String.Pos.Raw.mk n).IsValid line ∧
      ∃ front rest, line = front ++ "#" ++ rest ∧ '#' ∉ front.toList ∧
        (Text.bytes line).take n = Text.bytes front := by
  refine ⟨isComment_iff line, fun hne hblank => ?_, ?_, isCommentBytes_eq line,
    fun n => exists_of_signByte?⟩
  · have hnone : '#' ∉ line.toList := fun hsign => absurd (hblank '#' hsign) (by decide)
    exact Bool.eq_false_iff.2 fun hcomment => hne ((isComment_of_notMem hnone).1 hcomment)
  · rintro front rest rfl hfront
    refine ⟨isComment_append_sign hfront rest, fun rest' => ?_⟩
    rw [Bool.eq_iff_iff, isComment_append_sign hfront, isComment_append_sign hfront]

/-- A vertical tab in front of the first number sign leaves a line a comment, and a mark of three bytes
makes it a pattern, whatever is behind the sign; and so is a line of blanks. -/
theorem odd_blanks_are_told_apart :
    isComment "\x0b# é#" = true ∧ isComment "\ufeff# é#" = false ∧ isComment "\ufeff#" = false ∧
      isComment " \x0c" = false ∧ isCommentBytes "\ufeff# é#" = false ∧
      signByte? "\ufeff# é#" = some 3 ∧ (String.Pos.Raw.mk 3).IsValid "\ufeff# é#" := by
  obtain ⟨-, -, htab, -⟩ := comments_begin_with_a_sign "\x0b# é#"
  obtain ⟨-, -, hmark, hbytes, hcut⟩ := comments_begin_with_a_sign "\ufeff# é#"
  obtain ⟨-, hblanks, -⟩ := comments_begin_with_a_sign " \x0c"
  obtain ⟨hcomment, -⟩ := htab "\x0b" " é#" (by decide) (by decide)
  obtain ⟨hpattern, hsame⟩ := hmark "\ufeff" " é#" (by decide) (by decide)
  have hno : isComment "\ufeff# é#" = false :=
    Bool.eq_false_iff.2 fun h => absurd (hpattern.1 h) (by simp [blanks])
  have hbyte : signByte? "\ufeff# é#" = some 3 := by decide
  exact ⟨hcomment.2 (by simp [blanks]), hno, (hsame "").trans hno,
    hblanks (by decide) (by simp [blanks]), hbytes.trans hno, hbyte, (hcut 3 hbyte).1⟩

end Dataset
end VarStore
