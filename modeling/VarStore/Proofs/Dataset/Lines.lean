import VarStore.Dataset.Lines

/-!
# The pattern lines of a text

The pattern lines of a text are found by taking it apart at the line feeds, and a line feed belongs to no
line.  So a text with a line feed in it has the lines of what is in front of it and then those of what is
behind it (`patternLines_append`), and whatever else is known of the lines of a text follows from that.

A text that is put together from lines, each ended by a line feed with or without a carriage return in
front of it, is taken apart into these lines again.  Nothing is asked of the lines but that they have no
line feed and do not end in a carriage return, which would be taken for a part of the end of the line.
The last line need not be ended.  If it is, there is one line more, which is empty and so is a comment.

* `LineEnd`, `assemble`: putting a text together.
* `pattern_lines_of_assembled_text`: the splitting law, and taking such a text apart.
-/

namespace VarStore
namespace Dataset

/-! ## Taking a text apart -/

/-- The line that stands between two line feeds. -/
def lineOf (piece : List Char) : String := String.ofList (dropReturn piece)

theorem patternLines_eq (text : String) :
    patternLines text =
      ((text.toList.splitOn '\n').map lineOf).filter fun line => !isComment line := by
  have hcomment : ((fun line => !isComment line) ∘ String.ofList) =
      fun line => !isCommentLine line := by
    funext line
    rw [Function.comp_apply, isComment, String.toList_ofList]
  unfold patternLines patternLinesOf
  rw [← hcomment, ← List.filter_map, List.map_map]
  rfl

/-- **A text with a line feed in it** has the lines of both sides. -/
theorem patternLines_append (a b : String) :
    patternLines (a ++ "\n" ++ b) = patternLines a ++ patternLines b := by
  have hchars : (a ++ "\n" ++ b).toList = a.toList ++ '\n' :: b.toList := by simp
  rw [patternLines_eq, hchars, List.splitOn_append_cons_self, List.map_append, List.filter_append,
    ← patternLines_eq, ← patternLines_eq]

/-- A text without a line feed is one line. -/
theorem patternLines_of_notMem {text : String} (h : '\n' ∉ text.toList) :
    patternLines text = [lineOf text.toList].filter fun line => !isComment line := by
  rw [patternLines_eq, List.splitOn_eq_singleton h, List.map_singleton]

/-- What stands between two line feeds has none.  The induction is on the text. -/
theorem notMem_of_mem_splitOn {c : Char} {text piece : List Char} (h : piece ∈ text.splitOn c) :
    c ∉ piece := by
  induction text generalizing piece with
  | nil =>
    rw [List.splitOn_nil, List.mem_singleton] at h
    simp [h]
  | cons d text ih =>
    rw [List.splitOn_cons_eq_if_modifyHead] at h
    split at h
    · rcases List.mem_cons.1 h with rfl | h
      · simp
      · exact ih h
    · next hd =>
      obtain ⟨first, rest, hpieces⟩ := List.exists_cons_of_ne_nil (List.splitOn_ne_nil c text)
      rw [hpieces, List.modifyHead_cons, List.mem_cons] at h
      rcases h with rfl | h
      · have hfirst : c ∉ first := ih (by simp [hpieces])
        simpa [hfirst] using fun e => hd (by simp [e])
      · exact ih (by simp [hpieces, h])

theorem dropReturn_subset (piece : List Char) : dropReturn piece ⊆ piece := by
  unfold dropReturn
  split
  · exact List.dropLast_subset piece
  · exact List.Subset.refl piece

/-- No pattern line has a line feed or is a comment. -/
theorem of_mem_patternLines {text line : String} (h : line ∈ patternLines text) :
    '\n' ∉ line.toList ∧ isComment line = false := by
  rw [patternLines_eq, List.mem_filter] at h
  obtain ⟨hline, hcomment⟩ := h
  obtain ⟨piece, hpiece, rfl⟩ := List.mem_map.1 hline
  refine ⟨fun hfeed => ?_, by simpa using hcomment⟩
  rw [lineOf, String.toList_ofList] at hfeed
  exact notMem_of_mem_splitOn hpiece (dropReturn_subset piece hfeed)

/-! ## Putting a text together -/

/-- How a line is ended. -/
inductive LineEnd where
  | feed
  | returnFeed
  deriving DecidableEq

/-- The signs at the end of a line. -/
def LineEnd.text : LineEnd → String
  | feed => "\n"
  | returnFeed => "\r\n"

/-- The text of some lines that are ended, and of one more that is not, if there is one. -/
def assemble : List (String × LineEnd) → Option String → String
  | [], last => last.getD ""
  | (line, e) :: ended, last => line ++ e.text ++ assemble ended last

/-- A text that can be a line, however it is ended. -/
structure IsLine (line : String) : Prop where
  noFeed : '\n' ∉ line.toList
  noReturn : line.toList.getLast? ≠ some '\r'

instance (line : String) : Decidable (IsLine line) :=
  decidable_of_iff ('\n' ∉ line.toList ∧ line.toList.getLast? ≠ some '\r')
    ⟨fun h => ⟨h.1, h.2⟩, fun h => ⟨h.noFeed, h.noReturn⟩⟩

variable {line : String}

theorem lineOf_toList (hline : IsLine line) : lineOf line.toList = line := by
  rw [lineOf, dropReturn, if_neg hline.noReturn, String.ofList_toList]

/-- One carriage return at the end is cut off, and no more than one. -/
theorem lineOf_append_return (line : String) : lineOf (line ++ "\r").toList = line := by
  have hchars : (line ++ "\r").toList = line.toList ++ ['\r'] := by simp
  rw [hchars, lineOf, dropReturn, List.getLast?_concat, if_pos rfl, List.dropLast_concat,
    String.ofList_toList]

/-- **A line that is ended** comes before the lines behind it, as it stands. -/
theorem patternLines_ended (hline : IsLine line) (e : LineEnd) (rest : String) :
    patternLines (line ++ e.text ++ rest) =
      ([line].filter fun line => !isComment line) ++ patternLines rest := by
  cases e with
  | feed =>
    show patternLines (line ++ "\n" ++ rest) = _
    rw [patternLines_append, patternLines_of_notMem hline.noFeed, lineOf_toList hline]
  | returnFeed =>
    have hreturn : line ++ "\r\n" = line ++ "\r" ++ "\n" := by
      rw [String.append_assoc, show "\r" ++ "\n" = "\r\n" from rfl]
    have hfeed : '\n' ∉ (line ++ "\r").toList := by
      simp [hline.noFeed]
    show patternLines (line ++ "\r\n" ++ rest) = _
    rw [hreturn, patternLines_append, patternLines_of_notMem hfeed, lineOf_append_return]

/-- **Taking apart what was put together.**  The induction is on the lines that are ended. -/
theorem patternLines_assemble {ended : List (String × LineEnd)} {last : Option String}
    (hlines : ∀ line ∈ ended.map Prod.fst ++ last.toList, IsLine line) :
    patternLines (assemble ended last) =
      (ended.map Prod.fst ++ last.toList).filter fun line => !isComment line := by
  induction ended with
  | nil =>
    cases last with
    | none => rfl
    | some line =>
      have hline : IsLine line := hlines line (by simp)
      show patternLines line = _
      rw [patternLines_of_notMem hline.noFeed, lineOf_toList hline]
      rfl
  | cons p ended ih =>
    obtain ⟨line, e⟩ := p
    obtain ⟨hline, hrest⟩ := List.forall_mem_cons.1 hlines
    rw [assemble, patternLines_ended hline, ih hrest, ← List.filter_append]
    rfl

/-! ## All of it together -/

/-- **Pattern lines and line feeds.**  A text with a line feed in it has the pattern lines of what is in
front of it and then those of what is behind it.  No pattern line has a line feed or is a comment.  And if
a text is put together from lines, each ended by a line feed with or without a carriage return, the last
one perhaps not at all, then its pattern lines are those of the lines that are no comments, in order and
as they stand. -/
theorem pattern_lines_of_assembled_text :
    (∀ a b : String, patternLines (a ++ "\n" ++ b) = patternLines a ++ patternLines b) ∧
    (∀ text : String, ∀ line ∈ patternLines text, '\n' ∉ line.toList ∧ isComment line = false) ∧
    ∀ (ended : List (String × LineEnd)) (last : Option String),
      (∀ line ∈ ended.map Prod.fst ++ last.toList, IsLine line) →
      patternLines (assemble ended last) =
        (ended.map Prod.fst ++ last.toList).filter fun line => !isComment line :=
  ⟨patternLines_append, fun _ _ => of_mem_patternLines, fun _ _ => patternLines_assemble⟩

/-- Lines with blanks, number signs and carriage returns in odd places, ended in both ways. -/
def oddLines : List (String × LineEnd) :=
  [("# c", .returnFeed), ("", .feed), (" \t", .returnFeed), ("a\rb #x", .feed),
    ("\x0b #y", .returnFeed)]

/-- Those that are no comments are left, a line of blanks among them, and so is the one that is not
ended, which begins with a blank that is not in ASCII. -/
theorem oddLines_are_taken_apart :
    patternLines "# c\r\n\n \t\r\na\rb #x\n\x0b #y\r\n\u00a0#z " =
      [" \t", "a\rb #x", "\u00a0#z "] := by
  obtain ⟨-, -, happart⟩ := pattern_lines_of_assembled_text
  exact happart oddLines (some "\u00a0#z ") (by decide)

end Dataset
end VarStore
