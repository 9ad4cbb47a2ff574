import VarStore.CommandLine.Command
import VarStore.Proofs.Dataset.Lines
import VarStore.Proofs.Dataset.Loading
import VarStore.Proofs.File.Walk
import VarStore.Proofs.Json.Document

/-!
# The report on a dataset is exact

The report on a dataset says how many patterns there are and, if they are asked for, which.  It is printed
in two formats, and from either one what was to be said is got back.  The one is JSON and is read as a
document (`Json.parse_pretty`), whatever quotes, escapes and control characters the patterns have.  The
other is a line for the count and then a line for each pattern with two blanks in front of it.  A pattern
has no line feed, being a line, so the lines of the output are the lines that were printed; the name of the
dataset may have one, and then it cannot be told where the first line ends.

`PatternsRequest.run` says what is printed when the command has succeeded, and of a command that fails it
says why.  That nothing has been printed before it failed cannot be seen from there.  So the command is
done here once more, one thing after the other (`runOn`), on a terminal that keeps what has been printed.

* `Terminal`, `PatternsRequest.runOn`: the command, and what is printed while it runs.
* `listed?`: the patterns that a listing shows.
* `report_is_exact`: what is printed, and what is not.
-/

namespace VarStore
namespace CommandLine

open Dataset (patternLines)

/-! ## The command, one thing after the other -/

/-- What a command works on: what has been printed, and the events. -/
structure Terminal where
  output : String
  events : List Event

/-- Print a line. -/
def Terminal.print (w : Terminal) (line : String) : Terminal :=
  { w with output := w.output ++ (line ++ "\n") }

theorem printed_cons (line : String) (lines : List String) :
    printed (line :: lines) = line ++ "\n" ++ printed lines := by
  unfold printed
  rw [List.map_cons, String.join_cons]

theorem foldl_print (lines : List String) (w : Terminal) :
    lines.foldl Terminal.print w = { w with output := w.output ++ printed lines } := by
  induction lines generalizing w with
  | nil => simp [printed]
  | cons line lines ih =>
    rw [List.foldl_cons, ih, printed_cons]
    simp [Terminal.print, String.append_assoc]

namespace PatternsRequest

variable {r : PatternsRequest} {read : File.Reader} {text : String} {fault : Dataset.Fault}

/-- Where the dataset comes from. -/
def provider (r : PatternsRequest) (read : File.Reader) : Dataset.Provider :=
  (Dataset.InDirectory.mk r.root).fetch read

/-- Carry out the command: load the dataset, tell of it, and print the report.  What was done when it
fails stays done. -/
def runOn (r : PatternsRequest) (read : File.Reader) (format : Format) (styles : Bool)
    (w : Terminal) : Except Failure Unit × Terminal :=
  match Dataset.loadOn (r.provider read) r.dataset Dataset.PatternList.builder
      ⟨.empty, [], w.events⟩ with
  | (.error cause, d) => (.error (.dataset r.dataset cause), { w with events := d.events })
  | (.ok count, d) =>
    let w := { w with events := d.events ++ [.datasetChecked r.dataset r.root count] }
    let report : Dataset.Report :=
      ⟨r.dataset, count, if r.list then some d.built.patterns else none⟩
    let lines := match format with
      | .json => [report.toJson]
      | .text => report.lines styles
    (.ok (), lines.foldl Terminal.print w)

/-- The report on a text. -/
def reportOn (r : PatternsRequest) (text : String) : Dataset.Report :=
  ⟨r.dataset, (patternLines text).length, if r.list then some (patternLines text) else none⟩

theorem report_of_ok (h : r.provider read r.dataset = .ok text) :
    r.report read = .ok (r.reportOn text,
      [.datasetLoaded r.dataset (patternLines text).length,
        .datasetChecked r.dataset r.root (patternLines text).length]) := by
  change Dataset.InDirectory.fetch _ _ _ = _ at h
  unfold report
  rw [Dataset.load_eq, h]
  dsimp only
  rw [Dataset.foldl_protocol]
  rfl

theorem report_of_error (h : r.provider read r.dataset = .error fault) :
    r.report read = .error (.dataset r.dataset fault) := by
  change Dataset.InDirectory.fetch _ _ _ = _ at h
  unfold report
  rw [Dataset.load_eq, h]

theorem run_of_ok (h : r.provider read r.dataset = .ok text) (format : Format) (styles : Bool) :
    r.run read format styles =
      .ok ⟨render format (r.reportOn text).toJson ((r.reportOn text).lines styles),
        [.datasetLoaded r.dataset (patternLines text).length,
          .datasetChecked r.dataset r.root (patternLines text).length]⟩ := by
  rw [run, report_of_ok h]
  rfl

/-- **What the command does** is what it leaves, behind what has been printed before. -/
theorem runOn_eq (r : PatternsRequest) (read : File.Reader) (format : Format) (styles : Bool)
    (w : Terminal) :
    r.runOn read format styles w =
      match r.run read format styles with
      | .error failure => (.error failure, w)
      | .ok o => (.ok (), ⟨w.output ++ o.output, w.events ++ o.events⟩) := by
  unfold runOn
  rw [Dataset.loadOn_eq]
  cases h : r.provider read r.dataset with
  | error fault =>
    rw [run, report_of_error h]
    rfl
  | ok text =>
    rw [run_of_ok h]
    dsimp only
    rw [Dataset.foldl_protocol, foldl_print]
    cases format <;> simp [render, reportOn, Dataset.PatternList.empty]

/-! ## Reading the report -/

/-- The lines of a text in which every line is ended. -/
def endedLines? (text : List Char) : Option (List (List Char)) :=
  if (text.splitOn '\n').getLast? = some [] then some (text.splitOn '\n').dropLast else none

/-- A line without the two blanks in front of it. -/
def unindented? : List Char → Option String
  | ' ' :: ' ' :: line => some (String.ofList line)
  | _ => none

/-- The patterns that a listing shows: the lines behind the first, without the blanks. -/
def listed? (output : String) : Option (List String) :=
  (endedLines? output.toList).bind fun lines => lines.tail.mapM unindented?

/-- Lines that are ended are found again.  The induction is on the lines. -/
theorem splitOn_flatMap_ended {lines : List (List Char)} (h : ∀ line ∈ lines, '\n' ∉ line) :
    (lines.flatMap fun line => line ++ ['\n']).splitOn '\n' = lines ++ [[]] := by
  induction lines with
  | nil => exact List.splitOn_nil '\n'
  | cons line lines ih =>
    obtain ⟨hline, hlines⟩ := List.forall_mem_cons.1 h
    rw [List.flatMap_cons, List.append_assoc, List.singleton_append,
      List.splitOn_append_cons_self, List.splitOn_eq_singleton hline, ih hlines,
      List.singleton_append, List.cons_append]

theorem endedLines?_flatMap {lines : List (List Char)} (h : ∀ line ∈ lines, '\n' ∉ line) :
    endedLines? (lines.flatMap fun line => line ++ ['\n']) = some lines := by
  unfold endedLines?
  rw [splitOn_flatMap_ended h, List.getLast?_concat, List.dropLast_concat]
  exact if_pos rfl

theorem toList_printed (lines : List String) :
    (printed lines).toList = (lines.map String.toList).flatMap fun line => line ++ ['\n'] := by
  induction lines with
  | nil => rfl
  | cons line lines ih =>
    rw [printed_cons, String.toList_append, ih]
    simp

theorem unindented?_indented (line : String) : unindented? ("  " ++ line).toList = some line := by
  rw [String.toList_append]
  exact congrArg some (String.ofList_toList)

theorem mapM_unindented? (lines : List String) :
    (lines.map fun line => ("  " ++ line).toList).mapM unindented? = some lines := by
  induction lines with
  | nil => rfl
  | cons line lines ih =>
    rw [List.map_cons, List.mapM_cons, unindented?_indented, ih]
    rfl

/-- **A listing shows its patterns**, if none of its lines has a line feed. -/
theorem listed?_printed {first : String} {lines : List String} (hfirst : '\n' ∉ first.toList)
    (hlines : ∀ line ∈ lines, '\n' ∉ line.toList) :
    listed? (printed (first :: lines.map fun line => "  " ++ line)) = some lines := by
  have hended : ∀ line ∈ first.toList :: lines.map (fun line => ("  " ++ line).toList),
      '\n' ∉ line := by
    refine List.forall_mem_cons.2 ⟨hfirst, fun line hline => ?_⟩
    obtain ⟨pattern, hpattern, rfl⟩ := List.mem_map.1 hline
    simpa using hlines pattern hpattern
  rw [listed?, toList_printed, List.map_cons, List.map_map]
  show (endedLines? ((first.toList :: lines.map fun line => ("  " ++ line).toList).flatMap _)).bind
    _ = _
  rw [endedLines?_flatMap hended]
  exact mapM_unindented? lines

/-- The document with the name of a dataset, the number of its patterns and, if they are asked for, the
patterns. -/
def document (name : String) (patterns : List String) (list : Bool) : Json.Value :=
  .object ([("dataset".toList, .ofText name), ("count".toList, .ofNat patterns.length)] ++
    if list then [("patterns".toList, .array (patterns.map .ofText))] else [])

theorem toDocument_reportOn (r : PatternsRequest) (text : String) :
    (r.reportOn text).toDocument = document r.dataset (patternLines text) r.list := by
  unfold reportOn Dataset.Report.toDocument document
  cases r.list <;> rfl

theorem isPlain_document (name : String) (patterns : List String) (list : Bool) :
    (document name patterns list).IsPlain := by
  have hpatterns : (Json.Value.array (patterns.map .ofText)).IsPlain := by
    refine .array fun v hv => ?_
    obtain ⟨pattern, -, rfl⟩ := List.mem_map.1 hv
    exact .string pattern.toList
  refine .object (List.forall_mem_append.2 ⟨?_, ?_⟩)
  · refine List.forall_mem_cons.2 ⟨.string name.toList, ?_⟩
    exact List.forall_mem_singleton.2 (.natural patterns.length)
  · cases list with
    | false => exact List.forall_mem_nil _
    | true => exact List.forall_mem_singleton.2 hpatterns

/-- **What is printed as JSON** spells the document. -/
theorem parse_printed_toJson (r : PatternsRequest) (text : String) :
    Json.parse (printed [(r.reportOn text).toJson]) =
      .ok (document r.dataset (patternLines text) r.list) := by
  have hprinted : printed [(r.reportOn text).toJson] =
      String.ofList (Json.pretty (document r.dataset (patternLines text) r.list) ++ ['\n']) := by
    rw [← String.toList_inj, toList_printed, Dataset.Report.toJson, toDocument_reportOn]
    simp
  rw [hprinted]
  exact Json.parse_pretty (isPlain_document _ _ _) (List.forall_mem_singleton.2 rfl)

/-! ## The listing -/

/-- The first line of a listing. -/
def title (name : String) (count : Nat) : String :=
  "✓ " ++ toString count ++ " patterns in " ++ name

theorem lines_reportOn (r : PatternsRequest) (text : String) :
    (r.reportOn text).lines false =
      title r.dataset (patternLines text).length ::
        (if r.list then patternLines text else []).map fun pattern => "  " ++ pattern := by
  unfold reportOn Dataset.Report.lines title
  simp only [Text.styled_false, show "✓" ++ " " = "✓ " from rfl]
  cases r.list <;> rfl

theorem feed_notMem_title {name : String} (hname : '\n' ∉ name.toList) (count : Nat) :
    '\n' ∉ (title name count).toList := by
  have hdigits : '\n' ∉ Nat.toDigits 10 count := fun hfeed =>
    absurd (Text.isDigit_of_mem_toDigits hfeed) (by decide)
  simp [title, hname, hdigits]

theorem feed_notMem_shown (text : String) (list : Bool) :
    ∀ line ∈ (if list then patternLines text else []), '\n' ∉ line.toList := by
  cases list with
  | false => exact List.forall_mem_nil _
  | true => exact fun line hline => (Dataset.of_mem_patternLines hline).1

/-! ## All of it together -/

/-- **The report on a dataset is exact**, whatever the name of the dataset, the directory, the files and
the text, and whether or not the patterns are asked for.  What is printed as JSON spells a document that
has the name, the number of the pattern lines and, if and only if they are asked for, the pattern lines in
order.  What is printed as text has the number in its first line; and if the name has no line feed, the
lines behind it show the pattern lines in order, or nothing if they are not asked for.  If the dataset is
not to be had, the command fails for this reason and prints nothing, whatever the format; and if it is,
the command prints just what it leaves. -/
theorem report_is_exact (r : PatternsRequest) (read : File.Reader) :
    (∀ text, r.provider read r.dataset = .ok text →
      (∃ o, r.run read .json false = .ok o ∧
        Json.parse o.output = .ok (document r.dataset (patternLines text) r.list)) ∧
      ∃ o listing, r.run read .text false = .ok o ∧
        o.output = "✓ " ++ toString (patternLines text).length ++ " patterns in " ++ r.dataset ++
          "\n" ++ listing ∧
        (r.list = false → listing = "") ∧
        ('\n' ∉ r.dataset.toList →
          listed? o.output = some (if r.list then patternLines text else []))) ∧
    (∀ fault, r.provider read r.dataset = .error fault →
      ∀ format styles w, r.runOn read format styles w = (.error (.dataset r.dataset fault), w)) ∧
    ∀ format styles w o, r.run read format styles = .ok o →
      r.runOn read format styles w = (.ok (), ⟨w.output ++ o.output, w.events ++ o.events⟩) := by
  refine ⟨fun text htext => ⟨⟨_, run_of_ok htext .json false, ?_⟩, ?_⟩,
    fun fault hfault format styles w => ?_, fun format styles w o ho => ?_⟩
  · exact parse_printed_toJson r text
  · refine ⟨_, printed ((if r.list then patternLines text else []).map fun line => "  " ++ line),
      run_of_ok htext .text false, ?_, fun hlist => ?_, fun hname => ?_⟩
    · show printed _ = _
      rw [lines_reportOn, printed_cons]
      rfl
    · rw [hlist]
      rfl
    · show listed? (printed _) = _
      rw [lines_reportOn]
      exact listed?_printed (feed_notMem_title hname _) (feed_notMem_shown text r.list)
  · rw [runOn_eq, run, report_of_error hfault]
    rfl
  · rw [runOn_eq, ho]

/-- A dataset with a comment, a pattern with blanks, a quote and a backslash, one that is a control
character and a number sign, and one that ends in a carriage return. -/
def oddDataset : String := "# c\n  \"a\\\n\x01#\r\nb\r\r\n"

/-- The dataset as a file, in a directory. -/
def oddTree : File.Tree :=
  let files := .directory [("d", .file oddDataset.toUTF8)]
  ⟨⟨.emptyDirectory, []⟩, ⟨.directory [("lists", files)], []⟩⟩

/-- Its three patterns are printed in both formats, and of a dataset that is not there nothing is. -/
theorem oddDataset_is_reported :
    let r : PatternsRequest := ⟨"d", "lists", true⟩
    let patterns := ["  \"a\\", "\x01#", "b\r"]
    r.provider oddTree.read "d" = .ok oddDataset ∧
    (∃ o, r.run oddTree.read .json false = .ok o ∧
      Json.parse o.output = .ok (document "d" patterns true)) ∧
    (∃ o, r.run oddTree.read .text false = .ok o ∧ listed? o.output = some patterns) ∧
    ({ r with dataset := "e" } : PatternsRequest).runOn oddTree.read .json false ⟨"", []⟩ =
      (.error (.dataset "e" (.notFound "e")), ⟨"", []⟩) := by
  intro r patterns
  have hfile : oddTree.read ((Dataset.InDirectory.mk "lists").path "d") = .ok oddDataset :=
    File.text_file_toUTF8 oddDataset
  have hnoFile : oddTree.read ((Dataset.InDirectory.mk "lists").path "e") = .error .missing := rfl
  have hread : r.provider oddTree.read "d" = .ok oddDataset := by
    rw [provider, Dataset.InDirectory.fetch_of_not_isRemote (by decide), hfile]
  have hmissing : ({ r with dataset := "e" } : PatternsRequest).provider oddTree.read "e" =
      .error (.notFound "e") := by
    rw [provider, Dataset.InDirectory.fetch_of_not_isRemote (by decide), hnoFile]
  have hpatterns : patternLines oddDataset = patterns := by decide
  obtain ⟨hreport, -, -⟩ := report_is_exact r oddTree.read
  obtain ⟨⟨o, ho, hdocument⟩, o', listing, ho', -, -, hlisted⟩ := hreport oddDataset hread
  obtain ⟨-, hfault, -⟩ := report_is_exact { r with dataset := "e" } oddTree.read
  rw [hpatterns] at hdocument hlisted
  exact ⟨hread, ⟨o, ho, hdocument⟩, ⟨o', ho', hlisted (by decide)⟩,
    hfault (.notFound "e") hmissing .json false ⟨"", []⟩⟩

end PatternsRequest

end CommandLine
end VarStore
