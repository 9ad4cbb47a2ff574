import Mathlib
import VarStore.Proofs.Collection.Scan
import VarStore.Proofs.Regex.Room

/-!
# Literal patterns are plain texts

A pattern without metacharacters is meant to be found where its text is, and with anchors at the
ends of a text.  What it is compiled to says so character by character and up to case
(`search_anchored_iff`), so what is left is to say it of texts as wholes.

Where case counts, a character is spelled by itself alone, and a text is spelled by one text.  Where
case is ignored, two ASCII characters are the same exactly if their small letters are
(`ascii_partners_iff`).  That the Kelvin sign is a `k` and the long s an `s` cannot be seen within
ASCII.  A text in small letters falls into the same pieces as the text itself, so searching the one
in the other is searching small letters in small letters.

A resolution by such a pattern is a scan of the keys that it finds; nothing stops it where nothing
is expired.

* `Stands`, `cased`: where a piece has to stand, and what counts of its letters.
* `literal_search_is_plain`: all of it.
-/

namespace VarStore
namespace Regex

variable {front back ignoreCase : Bool} {s t : String} {w v : List Char} {c d : Char}

/-! ## Pieces and anchors -/

/-- Where a piece of a text has to stand: anywhere, or at one end or both. -/
def Stands : (front back : Bool) → (piece text : List Char) → Prop
  | false, false, w, v => w <:+: v
  | true, false, w, v => w <+: v
  | false, true, w, v => w <:+ v
  | true, true, w, v => v = w

theorem stands_iff :
    Stands front back w v ↔
      ∃ x y, v = x ++ w ++ y ∧ (front = true → x = []) ∧ (back = true → y = []) := by
  cases front <;> cases back <;>
    simp only [Stands, true_implies, reduceCtorEq, false_implies, true_and, and_true]
  · constructor
    · rintro ⟨x, y, rfl⟩
      exact ⟨x, y, rfl⟩
    · rintro ⟨x, y, rfl⟩
      exact ⟨x, y, rfl⟩
  · constructor
    · rintro ⟨x, rfl⟩
      exact ⟨x, [], by simp, rfl⟩
    · rintro ⟨x, y, rfl, rfl⟩
      exact ⟨x, by simp⟩
  · constructor
    · rintro ⟨y, rfl⟩
      exact ⟨[], y, by simp, rfl⟩
    · rintro ⟨x, y, rfl, rfl⟩
      exact ⟨y, by simp⟩
  · constructor
    · rintro rfl
      exact ⟨[], [], by simp, rfl, rfl⟩
    · rintro ⟨x, y, rfl, rfl, rfl⟩
      simp

/-- A text falls into the same pieces when each of its characters is replaced. -/
theorem stands_map_iff (f : Char → Char) :
    Stands front back (w.map f) (v.map f) ↔
      ∃ x z y, v = x ++ z ++ y ∧ (front = true → x = []) ∧ (back = true → y = []) ∧
        z.map f = w.map f := by
  rw [stands_iff]
  constructor
  · rintro ⟨_, _, hv, hx, hy⟩
    obtain ⟨r, y, rfl, hr, rfl⟩ := List.map_eq_append_iff.1 hv
    obtain ⟨x, z, rfl, rfl, hz⟩ := List.map_eq_append_iff.1 hr
    refine ⟨x, z, y, rfl, fun h => ?_, fun h => ?_, hz⟩
    · simpa using hx h
    · simpa using hy h
  · rintro ⟨x, z, y, rfl, hx, hy, hz⟩
    refine ⟨x.map f, y.map f, by simp [hz], fun h => ?_, fun h => ?_⟩
    · simp [hx h]
    · simp [hy h]

/-! ## Letters -/

/-- All of the characters are in ASCII. -/
def IsAscii (s : String) : Prop := ∀ c ∈ s.toList, c.toNat < 128

/-- What counts of a text: its letters as they are, or as small letters. -/
def cased (ignoreCase : Bool) (s : String) : List Char :=
  if ignoreCase then (Text.lower s).toList else s.toList

theorem toNat_toLower (c : Char) :
    c.toLower.toNat = if 65 ≤ c.toNat ∧ c.toNat ≤ 90 then c.toNat + 32 else c.toNat := by
  have hrange : ('A'.val ≤ c.val ∧ c.val ≤ 'Z'.val) ↔ 65 ≤ c.toNat ∧ c.toNat ≤ 90 := by
    rw [UInt32.le_iff_toNat_le, UInt32.le_iff_toNat_le]
    exact Iff.rfl
  unfold Char.toLower
  by_cases h : 'A'.val ≤ c.val ∧ c.val ≤ 'Z'.val
  · have hcode := hrange.1 h
    rw [dif_pos h, if_pos hcode]
    show (c.val + ('a'.val - 'A'.val)).toNat = c.val.toNat + 32
    change 65 ≤ c.val.toNat ∧ c.val.toNat ≤ 90 at hcode
    rw [UInt32.toNat_add]
    change (c.val.toNat + 32) % 4294967296 = _
    omega
  · rw [dif_neg h, if_neg fun hcode => h (hrange.2 hcode)]

/-- The code point of an ASCII character can be moved within ASCII. -/
theorem toNat_ofNat_of_lt {n : Nat} (hn : n < 128) : (Char.ofNat n).toNat = n := by
  have hvalid : n.isValidChar := Or.inl (by omega)
  rw [Char.ofNat, dif_pos hvalid]
  rfl

/-- **Case in ASCII.**  An ASCII character is the same as another one up to case if the small
letters are. -/
theorem ascii_partners_iff (hc : c.toNat < 128) (hd : d.toNat < 128) :
    (d = c ∨ d ∈ Unicode.casePartners c) ↔ d.toLower = c.toLower := by
  have hupper : ('A' ≤ c ∧ c ≤ 'Z') ↔ 65 ≤ c.toNat ∧ c.toNat ≤ 90 := by
    rw [Char.le_def, Char.le_def, UInt32.le_iff_toNat_le, UInt32.le_iff_toNat_le]
    exact Iff.rfl
  have hlower : ('a' ≤ c ∧ c ≤ 'z') ↔ 97 ≤ c.toNat ∧ c.toNat ≤ 122 := by
    rw [Char.le_def, Char.le_def, UInt32.le_iff_toNat_le, UInt32.le_iff_toNat_le]
    exact Iff.rfl
  -- the partners outside ASCII are not `d`
  have hwide : ∀ p q : Prop, [Decidable p] → [Decidable q] →
      d ∉ (if p then ['\u212a'] else if q then ['\u017f'] else []) := by
    intro p q _ _ hmem
    have hcode : d = '\u212a' ∨ d = '\u017f' := by
      split at hmem
      · exact Or.inl (List.mem_singleton.1 hmem)
      · split at hmem
        · exact Or.inr (List.mem_singleton.1 hmem)
        · cases hmem
    rcases hcode with rfl | rfl
    · exact absurd hd (by decide)
    · exact absurd hd (by decide)
  have hsame : d.toLower = c.toLower ↔ d.toLower.toNat = c.toLower.toNat := Char.toNat_inj.symm
  have hequal : d = c ↔ d.toNat = c.toNat := Char.toNat_inj.symm
  rw [hsame, toNat_toLower, toNat_toLower, hequal, Unicode.casePartners, if_pos hc,
    Unicode.asciiPartners]
  by_cases hu : 'A' ≤ c ∧ c ≤ 'Z'
  · have hcode := hupper.1 hu
    rw [if_pos hu, List.mem_cons, or_iff_left (hwide _ _), ← Char.toNat_inj,
      toNat_ofNat_of_lt (by omega), if_pos hcode]
    split <;> omega
  · by_cases hl : 'a' ≤ c ∧ c ≤ 'z'
    · have hcode := hlower.1 hl
      rw [if_neg hu, if_pos hl, List.mem_cons, or_iff_left (hwide _ _), ← Char.toNat_inj,
        toNat_ofNat_of_lt (by omega), if_neg fun h => hu (hupper.2 h)]
      split <;> omega
    · have hlarge : ¬ (65 ≤ c.toNat ∧ c.toNat ≤ 90) := fun h => hu (hupper.2 h)
      have hsmall : ¬ (97 ≤ c.toNat ∧ c.toNat ≤ 122) := fun h => hl (hlower.2 h)
      rw [if_neg hu, if_neg hl, or_iff_left List.not_mem_nil, if_neg hlarge]
      split <;> omega

/-- **Spelling and small letters.** -/
theorem spells_iff_map_toLower (hw : ∀ c ∈ w, c.toNat < 128) (hv : ∀ c ∈ v, c.toNat < 128) :
    Spells (.initial true) w v ↔ v.map Char.toLower = w.map Char.toLower := by
  unfold Spells
  induction w generalizing v with
  | nil => simp
  | cons c w ih =>
    obtain ⟨hc, hw⟩ := List.forall_mem_cons.1 hw
    cases v with
    | nil => simp
    | cons d v =>
      obtain ⟨hd, hv⟩ := List.forall_mem_cons.1 hv
      have hpartners : (d = c ∨ d ∈ (Flags.initial true).partners c) ↔ d.toLower = c.toLower :=
        ascii_partners_iff hc hd
      simp only [List.forall₂_cons, List.map_cons, List.cons.injEq, hpartners, ih hw hv]

/-- **What a literal pattern finds.** -/
theorem search_anchored_iff_stands (hs : ∀ c ∈ s.toList, c ∉ metacharacters) {p : KeyPattern}
    (hp : KeyPattern.compile (anchored front back s) ignoreCase = .ok p)
    (hascii : ignoreCase = true → IsAscii s ∧ IsAscii t) :
    p.search t = true ↔ Stands front back (cased ignoreCase s) (cased ignoreCase t) := by
  rw [search_anchored_iff hs hp]
  cases ignoreCase with
  | false =>
    have hspells : ∀ w : List Char, Spells (.initial false) s.toList w ↔ w = s.toList :=
      spells_iff_eq fun _ _ => rfl
    simp only [hspells, cased, Bool.false_eq_true, if_false, stands_iff]
    constructor
    · rintro ⟨x, _, y, ht, hx, hy, rfl⟩
      exact ⟨x, y, ht, hx, hy⟩
    · rintro ⟨x, y, ht, hx, hy⟩
      exact ⟨x, s.toList, y, ht, hx, hy, rfl⟩
  | true =>
    obtain ⟨hs, ht⟩ := hascii rfl
    simp only [cased, if_true, Text.lower, String.toList_ofList, stands_map_iff]
    have hpiece : ∀ x z y : List Char, t.toList = x ++ z ++ y →
        (Spells (.initial true) s.toList z ↔
          z.map Char.toLower = s.toList.map Char.toLower) := by
      intro x z y hxy
      refine spells_iff_map_toLower hs fun d hd => ht d ?_
      rw [hxy]
      simp [hd]
    constructor
    · rintro ⟨x, z, y, hxy, hx, hy, hz⟩
      exact ⟨x, z, y, hxy, hx, hy, (hpiece x z y hxy).1 hz⟩
    · rintro ⟨x, z, y, hxy, hx, hy, hz⟩
      exact ⟨x, z, y, hxy, hx, hy, (hpiece x z y hxy).2 hz⟩

/-! ## Compiling -/

/-- A character takes at most four bytes. -/
theorem length_utf8Bytes_le (n : Nat) : (Unicode.utf8Bytes n).length ≤ 4 := by
  unfold Unicode.utf8Bytes
  dsimp only
  split
  · simp
  · split
    · simp
    · split <;> simp

/-- Where case counts, a literal character takes the room of its bytes, and so does an anchor. -/
theorem slim_flatPiece (hc : IsFlat c) :
    (flatPiece (.initial false) c).layout.Slim ∧
      (flatPiece (.initial false) c).layout.room ≤ 128 := by
  rcases hc with rfl | rfl | hc
  · exact ⟨trivial, by decide⟩
  · exact ⟨trivial, by decide⟩
  · have hbytes := length_utf8Bytes_le c.toNat
    have hlayout : (flatPiece (.initial false) c).layout = .text [c] := by
      rw [flatPiece_of_notMem hc]
      rfl
    rw [hlayout]
    refine ⟨trivial, ?_⟩
    simp only [Layout.room, Room.bytesOf, List.flatMap_cons, List.flatMap_nil, List.append_nil]
    omega

/-- **Literal patterns compile**, with anchors and without, up to a length of eighty thousand
characters. -/
theorem exists_compile_anchored (hs : ∀ c ∈ s.toList, c ∉ metacharacters)
    (hlength : s.length ≤ 80000) (front back : Bool) :
    ∃ p, KeyPattern.compile (anchored front back s) false = .ok p := by
  have hflat := isFlat_of_mem_anchored hs front back
  have hsum : ∀ cs : List Char, (∀ c ∈ cs, IsFlat c) →
      Layout.roomOf (cs.map fun c => (flatPiece (.initial false) c).layout) ≤
        128 * cs.length := by
    intro cs hcs
    induction cs with
    | nil => simp [Layout.roomOf]
    | cons c cs ih =>
      obtain ⟨hc, hcs⟩ := List.forall_mem_cons.1 hcs
      have hothers := ih hcs
      have hone := (slim_flatPiece hc).2
      simp only [List.map_cons, Layout.roomOf, List.length_cons]
      omega
  have hshort : (anchored front back s).toList.length ≤ s.length + 2 := by
    rw [toList_anchored, ← String.length_toList]
    cases front <;> cases back <;> simp
  have hroom := hsum _ hflat
  have hlimit : 128 * (80000 + 2) + 240 ≤ Room.limit := by decide
  refine exists_compile hflat (fun c hc => (slim_flatPiece (hflat c hc)).1) ?_
  omega

/-! ## Resolving by a prefix -/

theorem anchored_front (s : String) : anchored true false s = "^" ++ s := by
  rw [← String.toList_inj, toList_anchored]
  simp

/-- Where nothing is expired, a resolution by a prefix finds all that is under the keys that begin
with it. -/
theorem resolveMatching_caret {c : Collection} {now : Instant} {order : List String}
    (hs : ∀ d ∈ s.toList, d ∉ metacharacters)
    (hlive : ∀ k, ∀ e ∈ c.bucket k, e.isExpiredAt now = false) {p : KeyPattern}
    (hp : KeyPattern.compile ("^" ++ s) c.ignoreCase = .ok p)
    (hascii : c.ignoreCase = true → IsAscii s ∧ ∀ k ∈ order, IsAscii k) (out : List Record) :
    c.resolveMatching now order ("^" ++ s) .keepAll out =
      .ok ⟨c, ((order.filter fun k => (cased c.ignoreCase s).isPrefixOf
        (cased c.ignoreCase k)).flatMap c.recordsUnder).reverse ++ out, []⟩ := by
  have hfound : order.filter (fun k => p.search k && !false) =
      order.filter fun k => (cased c.ignoreCase s).isPrefixOf (cased c.ignoreCase k) := by
    refine List.filter_congr fun k hk => ?_
    rw [← anchored_front] at hp
    have hsearch := search_anchored_iff_stands (t := k) hs hp fun h =>
      ⟨(hascii h).1, (hascii h).2 k hk⟩
    rw [Bool.not_false, Bool.and_true, Bool.eq_iff_iff, hsearch, List.isPrefixOf_iff_prefix]
    rfl
  have hstop : ∀ keys, c.stop? now keys = none := by
    intro keys
    exact Collection.stop?_eq_none_iff.2 fun k _ => Collection.hasExpired_eq_false_iff.2 (hlive k)
  rw [Filter.keepAll, Collection.resolveMatching_omitting hp, hfound,
    Collection.read_of_stop?_eq_none (hstop _), Collection.afterScan, Collection.scanEvents,
    hstop]
  rfl

/-- **A literal pattern is a plain text.**  Searching a text for a pattern that holds no
metacharacters, with anchors or without, is looking whether the text contains it, begins with it,
ends with it or is equal to it.  If case is ignored and both are in ASCII, this is so in small
letters.  Such a pattern compiles unless it is very long.  And a resolution by a text behind a caret
returns, of a collection in which nothing is expired, the values under the keys that begin with this
text and no others, and leaves everything as it is. -/
theorem literal_search_is_plain (s : String) (hs : ∀ d ∈ s.toList, d ∉ metacharacters) :
    (∀ (front back : Bool) (p : KeyPattern),
      KeyPattern.compile (anchored front back s) false = .ok p →
      ∀ t : String, p.search t = true ↔ Stands front back s.toList t.toList) ∧
    (IsAscii s → ∀ (front back : Bool) (p : KeyPattern),
      KeyPattern.compile (anchored front back s) true = .ok p →
      ∀ t : String, IsAscii t →
        (p.search t = true ↔
          Stands front back (Text.lower s).toList (Text.lower t).toList)) ∧
    (s.length ≤ 80000 → ∀ front back : Bool,
      ∃ p, KeyPattern.compile (anchored front back s) false = .ok p) ∧
    ∀ (c : Collection) (now : Instant) (order : List String) (out : List Record),
      order.Perm c.keys → (∀ k, ∀ e ∈ c.bucket k, e.isExpiredAt now = false) →
      (∃ p, KeyPattern.compile ("^" ++ s) c.ignoreCase = .ok p) →
      (c.ignoreCase = true → IsAscii s ∧ ∀ k ∈ c.keys, IsAscii k) →
      ∃ found, c.resolveMatching now order ("^" ++ s) .keepAll out = .ok ⟨c, found ++ out, []⟩ ∧
        found.reverse = (order.filter fun k => (cased c.ignoreCase s).isPrefixOf
          (cased c.ignoreCase k)).flatMap c.recordsUnder ∧
        ∀ r : Record, r ∈ found ↔ r.collection = c.name ∧
          cased c.ignoreCase s <+: cased c.ignoreCase r.key ∧
          ∃ e ∈ c.bucket r.key, e.payload = r.value := by
  refine ⟨fun front back p hp t => ?_, fun hascii front back p hp t ht => ?_,
    fun hlength front back => exists_compile_anchored hs hlength front back, ?_⟩
  · exact search_anchored_iff_stands hs hp fun h => (Bool.false_ne_true h).elim
  · exact search_anchored_iff_stands hs hp fun _ => ⟨hascii, ht⟩
  · rintro c now order out hperm hlive ⟨p, hp⟩ hascii
    have hkeys : c.ignoreCase = true → IsAscii s ∧ ∀ k ∈ order, IsAscii k := fun h =>
      ⟨(hascii h).1, fun k hk => (hascii h).2 k (hperm.mem_iff.1 hk)⟩
    have hresolved := resolveMatching_caret hs hlive hp hkeys out
    refine ⟨_, hresolved, by rw [List.reverse_reverse], fun r => ?_⟩
    rw [List.mem_reverse, List.mem_flatMap]
    constructor
    · rintro ⟨k, hk, hr⟩
      obtain ⟨e, he, rfl⟩ := List.mem_map.1 hr
      exact ⟨rfl, List.isPrefixOf_iff_prefix.1 (List.mem_filter.1 hk).2, e, he, rfl⟩
    · rintro ⟨hname, hprefix, e, he, hvalue⟩
      have hkey : r.key ∈ c.keys := by
        by_contra hnone
        rw [Collection.bucket, Buckets.get_eq_nil_of_notMem hnone] at he
        cases he
      refine ⟨r.key, List.mem_filter.2 ⟨hperm.mem_iff.2 hkey,
        List.isPrefixOf_iff_prefix.2 hprefix⟩, List.mem_map.2 ⟨e, he, ?_⟩⟩
      rw [← hname, hvalue]

/-- Three keys that contain the same two letters: at the beginning, at the end, and in capitals. -/
def spelledThrice : Collection :=
  (((Collection.mk "vars" false []).store "id:é" "1").store "void" "2").store "IDLE" "3"

/-- The two letters behind a caret find one of the keys, and in any case two; in front of a dollar
sign they find the third one. -/
theorem id_is_plain :
    (∀ d ∈ "id".toList, d ∉ metacharacters) ∧
    (∃ p, KeyPattern.compile (anchored false true "id") false = .ok p ∧ p.search "void" = true ∧
      p.search "IDLE" = false) ∧
    (∃ p, KeyPattern.compile (anchored true false "id") true = .ok p ∧ p.search "IDLE" = true ∧
      p.search "void" = false) ∧
    ∃ found, spelledThrice.resolveMatching .zero ["IDLE", "void", "id:é"] "^id" .keepAll [] =
      .ok ⟨spelledThrice, found ++ [], []⟩ ∧ found = [⟨"vars", "id:é", "1"⟩] := by
  have hs : ∀ d ∈ "id".toList, d ∉ metacharacters := by simp [metacharacters]
  have hascii : ∀ t ∈ ["id", "IDLE", "void"], IsAscii t := by simp [IsAscii]
  obtain ⟨hplain, hcase, hcompile, hresolve⟩ := literal_search_is_plain "id" hs
  refine ⟨hs, ?_, ?_, ?_⟩
  · obtain ⟨p, hp⟩ := hcompile (by decide) false true
    have hsearch := hplain false true p hp
    have hends : Stands false true "id".toList "void".toList := ⟨['v', 'o'], rfl⟩
    refine ⟨p, hp, (hsearch "void").2 hends, Bool.eq_false_iff.2 fun h => ?_⟩
    have hother : "id".toList <:+ "IDLE".toList := (hsearch "IDLE").1 h
    exact absurd hother (by decide)
  · have hfound : (KeyPattern.compile (anchored true false "id") true).toOption.map
        (·.search "IDLE") = some true := by cbv
    obtain ⟨p, hp, -⟩ := KeyPattern.exists_of_search_eq hfound
    have hsearch := hcase (hascii "id" (by decide)) true false p hp
    have hbegins : Stands true false (Text.lower "id").toList (Text.lower "IDLE").toList :=
      ⟨['l', 'e'], by decide⟩
    refine ⟨p, hp, (hsearch "IDLE" (hascii _ (by decide))).2 hbegins,
      Bool.eq_false_iff.2 fun h => ?_⟩
    have hother : (Text.lower "id").toList <+: (Text.lower "void").toList :=
      (hsearch "void" (hascii _ (by decide))).1 h
    exact absurd hother (by decide)
  · obtain ⟨p, hp⟩ := hcompile (by decide) true false
    rw [anchored_front] at hp
    have hlive : ∀ k, ∀ e ∈ spelledThrice.bucket k, e.isExpiredAt .zero = false := by
      intro k e he
      have hkeys : ∀ k ∈ spelledThrice.keys, ∀ e ∈ spelledThrice.bucket k,
          e.isExpiredAt .zero = false := by decide
      by_cases hk : k ∈ spelledThrice.keys
      · exact hkeys k hk e he
      · rw [Collection.bucket, Buckets.get_eq_nil_of_notMem hk] at he
        cases he
    obtain ⟨found, hfound, hlist, -⟩ := hresolve spelledThrice .zero ["IDLE", "void", "id:é"] []
      (by decide) hlive ⟨p, hp⟩ (fun h => absurd h (by decide))
    refine ⟨found, hfound, ?_⟩
    rw [← List.reverse_reverse found, hlist]
    decide

end Regex
end VarStore
