import VarStore.Dataset.Directory
import VarStore.Proofs.Dataset.Loading
import VarStore.Proofs.File.Resolution

/-!
# What becomes of a name

A name that is asked of a directory has one of four ends: it asks for the network, there is a text, there
is no such dataset, or the file cannot be read.  The first is told from the name alone.  For the others the
name is made a path, and what is at the end of the path decides (`File.Tree.read_eq_ok_iff`,
`File.Tree.read_eq_error_iff`).  A dataset is not there if its path is empty or fails first at a component
that does not exist; with whatever else is wrong the file cannot be read.  So `missing/../a` is not there,
even if `a` is, and `a/b` cannot be read if `a` is a file.

* `AsksForNetwork`: a name that is turned down before any file is looked at.
* `fetches_are_classified`: which names have which end, and that a load that fails changes nothing.
-/

namespace VarStore
namespace Dataset

variable {name text : String}

/-- A name that asks for the network. -/
def AsksForNetwork (name : String) : Prop :=
  ∃ rest, name = "http://" ++ rest ∨ name = "https://" ++ rest

namespace InDirectory

variable {d : InDirectory} {read : File.Reader}

theorem isPrefixOf_toList_iff (protocol name : String) :
    protocol.toList.isPrefixOf name.toList = true ↔ ∃ rest, name = protocol ++ rest := by
  rw [List.isPrefixOf_iff_prefix]
  constructor
  · rintro ⟨rest, hrest⟩
    refine ⟨String.ofList rest, ?_⟩
    rw [← String.toList_inj, ← hrest]
    simp
  · rintro ⟨rest, rfl⟩
    rw [String.toList_append]
    exact List.prefix_append _ _

theorem isRemote_iff : isRemote name = true ↔ AsksForNetwork name := by
  unfold isRemote AsksForNetwork
  rw [Bool.or_eq_true, isPrefixOf_toList_iff, isPrefixOf_toList_iff, ← exists_or]
  exact exists_congr fun rest => or_comm

theorem fetch_eq_ok_iff (h : isRemote name = false) :
    d.fetch read name = .ok text ↔ read (d.path name) = .ok text := by
  rw [fetch_of_not_isRemote h]
  cases read (d.path name) with
  | ok held => simp
  | error cause => cases cause <;> simp

theorem fetch_eq_notFound_iff (h : isRemote name = false) :
    d.fetch read name = .error (.notFound name) ↔ read (d.path name) = .error .missing := by
  rw [fetch_of_not_isRemote h]
  cases read (d.path name) with
  | ok held => simp
  | error cause => cases cause <;> simp

theorem fetch_eq_unreadable_iff (h : isRemote name = false) {cause : File.Fault} :
    d.fetch read name = .error (.unreadable name cause) ↔
      cause ≠ .missing ∧ read (d.path name) = .error cause := by
  rw [fetch_of_not_isRemote h]
  cases read (d.path name) with
  | ok held => simp
  | error fault => cases fault <;> cases cause <;> simp

/-- A name has one of the ends. -/
theorem fetch_cases (d : InDirectory) (read : File.Reader) (name : String) :
    (d.fetch read name = .error (.remote name) ∧ isRemote name = true) ∨
      isRemote name = false ∧
        ((∃ text, d.fetch read name = .ok text) ∨ d.fetch read name = .error (.notFound name) ∨
          ∃ cause, d.fetch read name = .error (.unreadable name cause)) := by
  cases h : isRemote name with
  | true => exact Or.inl ⟨fetch_of_isRemote h, rfl⟩
  | false =>
    refine Or.inr ⟨rfl, ?_⟩
    cases hread : read (d.path name) with
    | ok text => exact Or.inl ⟨text, (fetch_eq_ok_iff h).2 hread⟩
    | error cause =>
      by_cases hcause : cause = .missing
      · exact Or.inr (Or.inl ((fetch_eq_notFound_iff h).2 (hcause ▸ hread)))
      · exact Or.inr (Or.inr ⟨cause, (fetch_eq_unreadable_iff h).2 ⟨hcause, hread⟩⟩)

/-- **Fetches are classified**, for every directory, tree and name.  A name is turned down if and only if it
asks for the network, whatever the tree holds.  The path of any other name is the name itself or joins it
to the directory.  The text is given if and only if there is a text at the path, component by component; the
dataset is not found if and only if its path is one that can be walked or is empty, and it is empty or the
walk fails first at a component that does not exist; and in all other cases, and only in these, the file
cannot be read, for the reason that there is.  A load of a name that has no text fails for the same reason,
and leaves alone the builder, and whatever was built before. -/
theorem fetches_are_classified (d : InDirectory) (tree : File.Tree) (name : String) :
    let path := d.path name
    let fetched := d.fetch tree.read name
    File.Joined d.root name path ∧
    (fetched = .error (.remote name) ↔ AsksForNetwork name) ∧
    (¬AsksForNetwork name →
      (∀ text, fetched = .ok text ↔ tree.Holds path text) ∧
      (fetched = .error (.notFound name) ↔
        '\x00' ∉ path.toList ∧ path.utf8ByteSize ≤ File.longestPath ∧
          (path = "" ∨ (tree.start path).FailsAt (File.components path) .missing)) ∧
      (∀ cause, fetched = .error (.unreadable name cause) ↔
        cause ≠ .missing ∧ tree.Fails path cause) ∧
      ((∃ cause, fetched = .error (.unreadable name cause)) ↔
        (¬∃ text, fetched = .ok text) ∧ fetched ≠ .error (.notFound name))) ∧
    ∀ fault, fetched = .error fault → ∀ (σ : Type) (b : Builder σ) (w : Desk σ),
      loadOn (d.fetch tree.read) name b w = (.error fault, w) ∧
        load (d.fetch tree.read) name b w.built = .error fault := by
  intro path fetched
  refine ⟨File.joined_join d.root name, ?_, fun hname => ?_, fun fault hfault σ b w => ?_⟩
  · rw [← isRemote_iff]
    constructor
    · intro h
      obtain ⟨-, hremote⟩ | ⟨-, ⟨text, htext⟩ | hmissing | ⟨cause, hcause⟩⟩ :=
        d.fetch_cases tree.read name
      · exact hremote
      · cases h.symm.trans htext
      · cases h.symm.trans hmissing
      · cases h.symm.trans hcause
    · exact fetch_of_isRemote
  · have hlocal : isRemote name = false := Bool.eq_false_iff.2 (mt isRemote_iff.1 hname)
    refine ⟨fun text => ?_, ?_, fun cause => ?_, ?_⟩
    · exact (fetch_eq_ok_iff hlocal).trans File.Tree.read_eq_ok_iff
    · rw [← File.Tree.fails_missing_iff, ← File.Tree.read_eq_error_iff]
      exact fetch_eq_notFound_iff hlocal
    · rw [← File.Tree.read_eq_error_iff]
      exact fetch_eq_unreadable_iff hlocal
    · constructor
      · rintro ⟨cause, hcause⟩
        refine ⟨?_, fun hmissing => ?_⟩
        · rintro ⟨text, htext⟩
          cases hcause.symm.trans htext
        · cases hcause.symm.trans hmissing
      · rintro ⟨htext, hmissing⟩
        obtain ⟨-, hremote⟩ | ⟨-, htext' | hmissing' | hcause⟩ := d.fetch_cases tree.read name
        · exact absurd (isRemote_iff.1 hremote) hname
        · exact absurd htext' htext
        · exact absurd hmissing' hmissing
        · exact hcause
  · change d.fetch tree.read name = _ at hfault
    rw [loadOn_eq, load_eq, hfault]
    exact ⟨rfl, rfl⟩

/-- A directory with a text and a directory in it. -/
def nestedLists : File.Node := .directory [("a", .file "x".toUTF8), ("s", .emptyDirectory)]

/-- The tree with this directory. -/
def nestedTree : File.Tree :=
  let top := .directory [("lists", nestedLists)]
  ⟨⟨top, []⟩, ⟨top, []⟩⟩

/-- The way down and up again leads to the text, but not through a directory that is not there; and the text
cannot be left, not even by the slash at its end. -/
theorem nested_names_are_classified :
    let d : InDirectory := ⟨"lists"⟩
    d.fetch nestedTree.read "s/../a" = .ok "x" ∧
    d.fetch nestedTree.read "missing/../a" = .error (.notFound "missing/../a") ∧
    (∃ fault, d.fetch nestedTree.read "a/" = .error fault ∧
      fault.message = "failed to open file: a/. Not a directory (os error 20)" ∧
      ∀ (σ : Type) (b : Builder σ) (w : Desk σ),
        loadOn (d.fetch nestedTree.read) "a/" b w = (.error fault, w)) ∧
    ∃ fault, d.fetch nestedTree.read "http://a" = .error fault ∧
      fault.message = "failed to download http://a: remote pattern sources are not supported" := by
  intro d
  have hlocal : ∀ name, isRemote name = false → ¬AsksForNetwork name := fun name h hname =>
    Bool.eq_false_iff.1 h (isRemote_iff.2 hname)
  let lists : File.Trail := ⟨nestedLists, [nestedTree.here.node]⟩
  have hlists : ∀ path, (nestedTree.start path).Leads "lists" lists := fun path => by
    have hstart : nestedTree.start path = nestedTree.here := ite_self nestedTree.here
    rw [hstart]
    exact .down rfl (by decide) rfl
  have ha : lists.Leads "a" ⟨.file "x".toUTF8, lists.node :: lists.above⟩ :=
    .down rfl (by decide) rfl
  have hs : lists.Leads "s" ⟨.emptyDirectory, lists.node :: lists.above⟩ :=
    .down rfl (by decide) rfl
  have hup : File.Trail.Leads ⟨.emptyDirectory, lists.node :: lists.above⟩ ".." lists := .up rfl
  obtain ⟨-, -, htext, -⟩ := fetches_are_classified d nestedTree "s/../a"
  obtain ⟨-, -, hmissing, -⟩ := fetches_are_classified d nestedTree "missing/../a"
  obtain ⟨-, -, hfile, hload⟩ := fetches_are_classified d nestedTree "a/"
  obtain ⟨-, hremote, -, -⟩ := fetches_are_classified d nestedTree "http://a"
  refine ⟨?_, ?_, ⟨.unreadable "a/" .notDirectory, ?_⟩, ⟨.remote "http://a", ?_, rfl⟩⟩
  · refine ((htext (hlocal _ (by decide))).1 "x").2 ⟨⟨by decide, by decide, by decide⟩,
      lists.node :: lists.above, ?_⟩
    have hcomponents : File.components (d.path "s/../a") = ["lists", "s", "..", "a"] := by decide
    rw [hcomponents]
    exact .head (hlists _) (.head hs (.head hup (.head ha (.refl _))))
  · refine (hmissing (hlocal _ (by decide))).2.1.2 ⟨by decide, by decide, Or.inr ?_⟩
    exact ⟨["lists"], "missing", ["..", "a"], lists, by decide, .head (hlists _) (.refl _),
      .absent rfl (by decide) rfl⟩
  · have hstuck : (nestedTree.start (d.path "a/")).FailsAt (File.components (d.path "a/"))
        .notDirectory :=
      ⟨["lists", "a"], "", [], _, by decide, .head (hlists _) (.head ha (.refl _)), .file rfl⟩
    have hunreadable := ((hfile (hlocal _ (by decide))).2.2.1 .notDirectory).2
      ⟨by decide, .walk ⟨by decide, by decide, by decide⟩ hstuck⟩
    exact ⟨hunreadable, rfl, fun σ b w => (hload _ hunreadable σ b w).1⟩
  · exact hremote.2 ⟨"a", Or.inl rfl⟩

end InDirectory
end Dataset
end VarStore
