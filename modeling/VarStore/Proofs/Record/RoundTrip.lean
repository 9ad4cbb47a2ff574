import Mathlib.Data.List.Nodup
import VarStore.Proofs.Json.Strings
import VarStore.Record.Json

/-!
# Records survive being written

A record is written as a JSON text and read from one.  What is written is read back as the same record,
whatever its three strings are: each of them is read up to its own closing quote
(`Json.readString_flatMap_escapeChar`), so nothing that stands inside one can be taken for the end of it,
for another member or for the end of the object.

There are many more texts from which the same record can be read: with blanks, with the members in
another order and others among them, with characters spelled by their codes, and as an array.  Reading any
of them and writing the record brings about the one text that is written for it (`canonical`).

An object is read member by member, in whatever order they come, and what has been read is noted.  So the
induction is over the members that are still to come, and the invariant is that none of them has been read
(`readMembers_compactMembers`).

* `readMember_quote`, `readMembers_compactMembers`: reading members as they are printed.
* `ofJson_compact`: reading an object with members in any order.
* `json_round_trips`: writing and reading, and reading and writing.
-/

namespace VarStore
namespace Record

/-! ## Members as they are printed -/

/-- The name of a member. -/
def Member.label : Member → List Char
  | .collection => "collection".toList
  | .key => "key".toList
  | .value => "value".toList

theorem Member.named?_label (m : Member) : Member.named? m.label = some m := by
  cases m <;> decide

/-- Members with their strings, as members of a document. -/
def asMembers (fields : List (Member × List Char)) : List (List Char × Json.Value) :=
  fields.map fun f => (f.1.label, .string f.2)

/-- Note what was read for some members. -/
def Partial.fill (p : Partial) (fields : List (Member × List Char)) : Partial :=
  fields.foldl (fun p f => p.set f.2 f.1) p

theorem Partial.get_set (p : Partial) (m i : Member) (s : List Char) :
    (p.set s m).get i = if i = m then some s else p.get i := by
  cases m <;> cases i <;> rfl

/-- At the start nothing has been read. -/
theorem Partial.get_start (i : Member) : Partial.start.get i = none := by
  cases i <;> rfl

variable {m : Member} {s : List Char} {fields : List (Member × List Char)} {p : Partial}

theorem compactMembers_asMembers_cons (m : Member) (s : List Char)
    (fields : List (Member × List Char)) (rest : List Char) :
    Json.compactMembers (asMembers ((m, s) :: fields)) ++ rest =
      ',' :: (Json.quote m.label ++
        ':' :: (Json.quote s ++ (Json.compactMembers (asMembers fields) ++ rest))) := by
  rw [asMembers, List.map_cons, Json.compactMembers, Json.compact]
  simp only [List.cons_append, List.append_assoc, asMembers]

theorem compact_asMembers_cons (m : Member) (s : List Char)
    (fields : List (Member × List Char)) :
    Json.compact (.object (asMembers ((m, s) :: fields))) =
      '\x7b' :: (Json.quote m.label ++
        ':' :: (Json.quote s ++ Json.compactMembers (asMembers fields))) := by
  rw [asMembers, List.map_cons, Json.compact, Json.compact]
  simp only [List.cons_append, List.append_assoc, asMembers]

/-- Every member takes at least one sign. -/
theorem length_le_length_compactMembers (fields : List (Member × List Char)) :
    fields.length ≤ (Json.compactMembers (asMembers fields)).length := by
  induction fields with
  | nil => exact Nat.zero_le _
  | cons f fields ih =>
    have hcons := congrArg List.length (compactMembers_asMembers_cons f.1 f.2 fields [])
    simp only [List.append_nil, List.length_cons, List.length_append] at hcons
    rw [List.length_cons, hcons]
    omega

/-! ## Reading them -/

/-- **Reading a member** that has not been read before. -/
theorem readMember_quote (fuel : Nat) (hm : p.get m = none) (s rest : List Char) :
    readMember fuel p (Json.quote m.label ++ ':' :: (Json.quote s ++ rest)) =
      .ok (p.set s m, rest) := by
  rw [Json.quote_append, readMember]
  simp only [Json.readString_flatMap_escapeChar]
  show (if (Member.named? m.label).any fun m => (p.get m).isSome then _ else _) = _
  rw [m.named?_label, Option.any_some, hm, if_neg (by simp),
    Json.skipBlanks_cons_of_not_isBlank (by decide)]
  show Except.map _ (Json.expectString _) = _
  rw [Json.expectString_quote]
  rfl

/-- A member that has been read leaves the others unread. -/
theorem get_set_eq_none (hm : m ∉ fields.map (·.1)) (hp : ∀ f ∈ fields, p.get f.1 = none) :
    ∀ f ∈ fields, (p.set s m).get f.1 = none := by
  intro f hf
  have hne : f.1 ≠ m := fun e => hm (List.mem_map.2 ⟨f, hf, e⟩)
  rw [Partial.get_set, if_neg hne]
  exact hp f hf

/-- **Reading the further members of an object.**  The induction is on the members that are left; none of
them has been read, and none occurs twice. -/
theorem readMembers_compactMembers (hnodup : (fields.map (·.1)).Nodup)
    (hp : ∀ f ∈ fields, p.get f.1 = none) (rest : List Char) (fuel : Nat)
    (hfuel : fields.length < fuel) :
    readMembers fuel p (Json.compactMembers (asMembers fields) ++ rest) =
      finishObject (p.fill fields) rest := by
  induction fields generalizing p fuel with
  | nil =>
    obtain ⟨fuel, rfl⟩ := Nat.exists_eq_succ_of_ne_zero (Nat.ne_of_gt hfuel)
    rfl
  | cons f fields ih =>
    obtain ⟨m, s⟩ := f
    obtain ⟨fuel, rfl⟩ := Nat.exists_eq_succ_of_ne_zero (Nat.ne_of_gt (Nat.zero_lt_of_lt hfuel))
    obtain ⟨hm, hfields⟩ := List.nodup_cons.1 hnodup
    have hset := get_set_eq_none (s := s) hm fun f hf => hp f (List.mem_cons_of_mem _ hf)
    rw [compactMembers_asMembers_cons, readMembers,
      Json.skipBlanks_cons_of_not_isBlank (by decide)]
    show (readMember fuel p (Json.skipBlanks (Json.quote m.label ++ _))).bind _ = _
    rw [Json.skipBlanks_quote_append, readMember_quote fuel (hp (m, s) List.mem_cons_self)]
    exact ih hfields hset fuel (Nat.lt_of_succ_lt_succ hfuel)

theorem readObject_quote_append (fuel : Nat) (s rest : List Char) :
    readObject fuel (Json.quote s ++ rest) =
      (readMember fuel .start (Json.quote s ++ rest)).bind fun q => readMembers fuel q.1 q.2 := by
  rw [readObject, Json.skipBlanks_quote_append, Json.quote_append]
  rfl

/-- **Reading an object** with its members in any order. -/
theorem ofJson_compact {r : Record} (hnodup : (((m, s) :: fields).map (·.1)).Nodup)
    (hr : (Partial.start.fill ((m, s) :: fields)).finish? = some r) :
    ofJson (String.ofList (Json.compact (.object (asMembers ((m, s) :: fields))))) = .ok r := by
  obtain ⟨hm, hfields⟩ := List.nodup_cons.1 hnodup
  have hread := readMembers_compactMembers hfields
    (get_set_eq_none (s := s) hm fun f _ => Partial.get_start f.1) []
  rw [List.append_nil] at hread
  rw [ofJson, String.toList_ofList, compact_asMembers_cons,
    Json.skipBlanks_cons_of_not_isBlank (by decide)]
  show readObject _ (Json.quote m.label ++ _) = _
  rw [readObject_quote_append, readMember_quote _ (Partial.get_start m)]
  refine (hread _ ?_).trans ?_
  · have hfuel := length_le_length_compactMembers fields
    simp only [List.length_append, List.length_cons]
    omega
  · show finishObject (Partial.start.fill ((m, s) :: fields)) [] = _
    rw [finishObject, hr]
    rfl

/-! ## Round trips -/

/-- **What is written is read back.** -/
theorem ofJson_toJson (r : Record) : ofJson r.toJson = .ok r := by
  show ofJson (String.ofList (Json.compact (.object (asMembers
    [(.collection, r.collection.toList), (.key, r.key.toList), (.value, r.value.toList)])))) = _
  refine ofJson_compact (by simp) ?_
  show some (Record.mk _ _ _) = _
  simp only [String.ofList_toList]

/-- The text that is written for the record that is read from a text. -/
def canonical (text : String) : Except Json.Fault String := (ofJson text).map toJson

theorem canonical_of_ofJson {text : String} {r : Record} (h : ofJson text = .ok r) :
    canonical text = .ok r.toJson := by
  rw [canonical, h]
  rfl

theorem toJson_injective : Function.Injective toJson := by
  intro r r' h
  have hread := ofJson_toJson r
  rw [h, ofJson_toJson] at hread
  exact (Except.ok.inj hread).symm

/-- **Records survive being written, and every text has one canonical form.**  Whatever the three strings
of a record are, what is written for it is read back as the same record, so different records are written
differently.  From whatever text a record is read, the text that is written for it is read as the same
record again and is its own canonical form; and two texts have the same canonical form exactly if the same
record is read from them. -/
theorem json_round_trips :
    (∀ r : Record, ofJson r.toJson = .ok r) ∧
    Function.Injective toJson ∧
    (∀ text r, ofJson text = .ok r →
      canonical text = .ok r.toJson ∧ ofJson r.toJson = .ok r ∧
        canonical r.toJson = .ok r.toJson) ∧
    ∀ text text' r r', ofJson text = .ok r → ofJson text' = .ok r' →
      (canonical text = canonical text' ↔ r = r') := by
  refine ⟨ofJson_toJson, toJson_injective, fun text r h => ?_, fun text text' r r' h h' => ?_⟩
  · exact ⟨canonical_of_ofJson h, ofJson_toJson r, canonical_of_ofJson (ofJson_toJson r)⟩
  · rw [canonical_of_ofJson h, canonical_of_ofJson h', Except.ok.injEq]
    exact toJson_injective.eq_iff

/-- A record whose strings look like the end of a string with another member behind it, like the end of an
object with an escape, and like nothing in ASCII. -/
def misleading : Record := ⟨"\",\"key\":\"", "\x7d\\\x01", "😀"⟩

/-- A text from which it can be read: the members in another order and one more among them, blanks, and
characters spelled by their codes, one of them by a surrogate pair. -/
def respelled : String :=
  " \x7b \"value\" : \"\\ud83d\\uDE00\", \"other\": [1, \x7b\"key\": null\x7d],\n" ++
    "\"key\": \"\\u007d\\\\\\u0001\", \"c\\u006fllection\": \"\\\",\\\"key\\\":\\u0022\" \x7d"

/-- Another one, in which the record is an array. -/
def listed : String := "[\"\\\",\\\"key\\\":\\\"\", \"\x7d\\\\\\u0001\", \"😀\"]"

theorem ofJson_respelled : ofJson respelled = .ok misleading := by
  unfold ofJson respelled
  simp only [String.reduceAppend, String.reduceToList]
  rfl

theorem ofJson_listed : ofJson listed = .ok misleading := by
  unfold ofJson listed
  simp only [String.reduceToList]
  rfl

/-- The two texts have the same canonical form, from which the record is read again. -/
theorem respelled_round_trips :
    ofJson respelled = .ok misleading ∧ ofJson listed = .ok misleading ∧
      canonical respelled = canonical listed ∧ canonical respelled = .ok misleading.toJson ∧
      ofJson misleading.toJson = .ok misleading := by
  obtain ⟨-, -, hcanonical, hsame⟩ := json_round_trips
  obtain ⟨hform, hread, -⟩ := hcanonical respelled misleading ofJson_respelled
  have hforms := (hsame _ _ _ _ ofJson_respelled ofJson_listed).2 rfl
  exact ⟨ofJson_respelled, ofJson_listed, hforms, hform, hread⟩

end Record
end VarStore
