import VarStore.Proofs.File.Walk

/-!
# Where a path leads

What is read at a path is said here once more, by relations and not by a computation.  A component of a
path *leads* from one place to another, or one is *stuck* with it, and there is no third
(`Trail.leads_or_stuck`).  A path leads somewhere if its components do, one after the other, and it fails
at the first component with which one is stuck.  Nothing is decided by the text of the path: only a
directory can be left, also upwards and also by an empty component, and so whatever is behind a name that
is missing, or that is the name of a file, is never looked at.

* `Joined`: the path of a name below a directory.
* `Trail.Leads`, `Trail.Stuck`: one component.
* `Trail.Reaches`, `Trail.FailsAt`: all of them.
* `Tree.Holds`, `Tree.Fails`: what is to be read at a path, and why nothing is.
* `Tree.read_eq_ok_iff`, `Tree.read_eq_error_iff`: reading finds just this.
-/

namespace VarStore
namespace File

/-! ## The path -/

/-- The path of a name below a directory.  A slash is put between the two if there is something to part
and none is there. -/
inductive Joined : String → String → String → Prop
  | absolute (directory rest : String) : Joined directory ("/" ++ rest) ("/" ++ rest)
  | alone {name : String} (hname : ∀ rest, name ≠ "/" ++ rest) : Joined "" name name
  | behindSlash (above : String) {name : String} (hname : ∀ rest, name ≠ "/" ++ rest) :
      Joined (above ++ "/") name (above ++ "/" ++ name)
  | parted {directory name : String} (hname : ∀ rest, name ≠ "/" ++ rest) (hempty : directory ≠ "")
      (hdirectory : ∀ above, directory ≠ above ++ "/") :
      Joined directory name (directory ++ "/" ++ name)

theorem isAbsolute_iff {path : String} : isAbsolute path = true ↔ ∃ rest, path = "/" ++ rest := by
  unfold isAbsolute
  rw [beq_iff_eq]
  constructor
  · intro h
    obtain ⟨rest, hrest⟩ := List.head?_eq_some_iff.1 h
    refine ⟨String.ofList rest, ?_⟩
    rw [← String.toList_inj, hrest]
    simp
  · rintro ⟨rest, rfl⟩
    rw [String.toList_append]
    rfl

/-- **Joining gives the path.** -/
theorem joined_join (directory name : String) : Joined directory name (join directory name) := by
  unfold join
  by_cases habsolute : isAbsolute name = true
  · rw [if_pos habsolute]
    obtain ⟨rest, rfl⟩ := isAbsolute_iff.1 habsolute
    exact .absolute directory rest
  have hname : ∀ rest, name ≠ "/" ++ rest := fun rest hrest =>
    habsolute (isAbsolute_iff.2 ⟨rest, hrest⟩)
  rw [if_neg habsolute]
  unfold separator
  cases hlast : directory.toList.getLast? with
  | none =>
    obtain rfl : directory = "" := by simpa using hlast
    simpa using Joined.alone hname
  | some c =>
    by_cases hc : c = '/'
    · rw [hc] at hlast ⊢
      obtain ⟨above, rfl⟩ := eq_append_slash hlast
      simpa using Joined.behindSlash above hname
    · have hempty : directory ≠ "" := by
        rintro rfl
        cases hlast
      have hdirectory : ∀ above, directory ≠ above ++ "/" := by
        rintro above rfl
        refine hc (Option.some.inj (hlast.symm.trans ?_))
        simp
      rw [Option.any_some, decide_eq_true hc, if_pos rfl]
      exact .parted hname hempty hdirectory

/-! ## One component -/

namespace Trail

variable {t u : Trail} {name : String} {names : List String} {fault : Fault}

/-- A component leads from one place to another. -/
inductive Leads (t : Trail) : String → Trail → Prop
  | stay {entries : List (String × Node)} {name : String} (hnode : t.node = .directory entries)
      (hname : name = "" ∨ name = ".") : Leads t name t
  | up {entries : List (String × Node)} (hnode : t.node = .directory entries) : Leads t ".." t.up
  | down {entries : List (String × Node)} {name : String} {node : Node}
      (hnode : t.node = .directory entries) (hname : IsEntryName name)
      (hentry : entries.lookup name = some node) : Leads t name ⟨node, t.node :: t.above⟩

/-- A component does not lead anywhere. -/
inductive Stuck (t : Trail) : String → Fault → Prop
  | file {content : ByteArray} {name : String} (hnode : t.node = .file content) :
      Stuck t name .notDirectory
  | long {entries : List (String × Node)} {name : String} (hnode : t.node = .directory entries)
      (hname : longestName < name.utf8ByteSize) : Stuck t name .nameTooLong
  | absent {entries : List (String × Node)} {name : String} (hnode : t.node = .directory entries)
      (hname : IsEntryName name) (hentry : entries.lookup name = none) : Stuck t name .missing

/-- A component leads somewhere or does not. -/
theorem leads_or_stuck (t : Trail) (name : String) :
    (∃ u, t.Leads name u) ∨ ∃ fault, t.Stuck name fault := by
  cases hnode : t.node with
  | file content => exact Or.inr ⟨_, .file hnode⟩
  | directory entries =>
    by_cases hstay : name = "" ∨ name = "."
    · exact Or.inl ⟨_, .stay hnode hstay⟩
    by_cases hup : name = ".."
    · rw [hup]
      exact Or.inl ⟨t.up, .up hnode⟩
    by_cases hlong : longestName < name.utf8ByteSize
    · exact Or.inr ⟨_, .long hnode hlong⟩
    obtain ⟨hnonempty, hhere⟩ := not_or.1 hstay
    have hname : IsEntryName name := ⟨hnonempty, hhere, hup, Nat.not_lt.1 hlong⟩
    cases hentry : entries.lookup name with
    | none => exact Or.inr ⟨_, .absent hnode hname hentry⟩
    | some node => exact Or.inl ⟨_, .down hnode hname hentry⟩

theorem Leads.step_eq (h : t.Leads name u) : t.step name = .ok u := by
  cases h with
  | stay hnode hname =>
    unfold step
    rw [hnode]
    exact if_pos hname
  | up hnode =>
    unfold step
    rw [hnode]
    rfl
  | down hnode hname hentry => rw [step_of_isEntryName hname hnode, hentry]

theorem Stuck.step_eq (h : t.Stuck name fault) : t.step name = .error fault := by
  cases h with
  | file hnode =>
    unfold step
    rw [hnode]
  | long hnode hname =>
    have hspecial : ∀ special : String, special.utf8ByteSize ≤ longestName → name ≠ special :=
      fun special hspecial heq => Nat.not_le.2 hname (heq ▸ hspecial)
    unfold step
    rw [hnode]
    dsimp only
    rw [if_neg (not_or.2 ⟨hspecial "" (by decide), hspecial "." (by decide)⟩),
      if_neg (hspecial ".." (by decide)), if_pos hname]
  | absent hnode hname hentry => rw [step_of_isEntryName hname hnode, hentry]

/-! ## All components -/

/-- Components lead from one place to another, one after the other. -/
inductive Reaches : Trail → List String → Trail → Prop
  | refl (t : Trail) : Reaches t [] t
  | head {t u v : Trail} {name : String} {names : List String} (hname : t.Leads name u)
      (hnames : Reaches u names v) : Reaches t (name :: names) v

/-- Components lead up to one with which one is stuck, whatever comes behind it. -/
def FailsAt (t : Trail) (names : List String) (fault : Fault) : Prop :=
  ∃ before name after u, names = before ++ name :: after ∧ t.Reaches before u ∧ u.Stuck name fault

theorem Reaches.walk_eq (h : t.Reaches names u) : t.walk names = .ok u := by
  induction h with
  | refl t => rfl
  | head hname hnames ih =>
    rw [walk_cons, hname.step_eq]
    exact ih

theorem FailsAt.walk_eq (h : t.FailsAt names fault) : t.walk names = .error fault := by
  obtain ⟨before, name, after, u, rfl, hu, hstuck⟩ := h
  rw [walk_append, hu.walk_eq]
  show u.walk (name :: after) = _
  rw [walk_cons, hstuck.step_eq]
  rfl

/-- A walk comes to an end or fails on its way.  The induction is on the components. -/
theorem reaches_or_failsAt (t : Trail) (names : List String) :
    (∃ u, t.Reaches names u) ∨ ∃ fault, t.FailsAt names fault := by
  induction names generalizing t with
  | nil => exact Or.inl ⟨t, .refl t⟩
  | cons name names ih =>
    obtain ⟨u, hu⟩ | ⟨fault, hstuck⟩ := t.leads_or_stuck name
    · obtain ⟨v, hv⟩ | ⟨fault, before, name', after, v, rfl, hv, hstuck⟩ := ih u
      · exact Or.inl ⟨v, .head hu hv⟩
      · exact Or.inr ⟨fault, name :: before, name', after, v, rfl, .head hu hv, hstuck⟩
    · exact Or.inr ⟨fault, [], name, names, t, rfl, .refl t, hstuck⟩

end Trail

/-! ## Reading -/

/-- A node holds a text if it is a file of the bytes of the text. -/
theorem Node.text_eq_ok_iff {node : Node} {text : String} :
    node.text = .ok text ↔ node = .file text.toUTF8 := by
  constructor
  · intro h
    cases node with
    | directory entries => cases h
    | file content =>
      unfold Node.text String.fromUTF8? at h
      dsimp only at h
      by_cases hvalid : content.IsValidUTF8
      · rw [dif_pos hvalid] at h
        rw [← Except.ok.inj h]
        rfl
      · rw [dif_neg hvalid] at h
        cases h
  · rintro rfl
    exact text_file_toUTF8 text

/-- A path that is not turned down for its text. -/
structure Walkable (path : String) : Prop where
  noNul : '\x00' ∉ path.toList
  short : path.utf8ByteSize ≤ longestPath
  nonempty : path ≠ ""

theorem pathFault?_of_walkable {path : String} (h : Walkable path) : pathFault? path = none := by
  unfold pathFault?
  rw [if_neg h.noNul, if_neg (Nat.not_lt.2 h.short), if_neg h.nonempty]

namespace Tree

variable {tree : Tree} {path text : String} {fault : Fault}

/-- At a path there is a text. -/
def Holds (tree : Tree) (path text : String) : Prop :=
  Walkable path ∧
    ∃ above, (tree.start path).Reaches (components path) ⟨.file text.toUTF8, above⟩

/-- At a path there is nothing to be read. -/
inductive Fails (tree : Tree) (path : String) : Fault → Prop
  | nul (hnul : '\x00' ∈ path.toList) : Fails tree path .nulInPath
  | long (hnul : '\x00' ∉ path.toList) (hlong : longestPath < path.utf8ByteSize) :
      Fails tree path .nameTooLong
  | empty (hempty : path = "") : Fails tree path .missing
  | walk {fault : Fault} (hpath : Walkable path)
      (hfails : (tree.start path).FailsAt (components path) fault) : Fails tree path fault
  | directory {entries : List (String × Node)} {above : List Node} (hpath : Walkable path)
      (hreaches : (tree.start path).Reaches (components path) ⟨.directory entries, above⟩) :
      Fails tree path .isDirectory
  | notText {content : ByteArray} {above : List Node} (hpath : Walkable path)
      (hreaches : (tree.start path).Reaches (components path) ⟨.file content, above⟩)
      (hcontent : ∀ text : String, content ≠ text.toUTF8) : Fails tree path .notText

/-- Reading at a path that leads somewhere. -/
theorem read_of_reaches {u : Trail} (hpath : Walkable path)
    (h : (tree.start path).Reaches (components path) u) : tree.read path = u.node.text := by
  unfold read
  rw [pathFault?_of_walkable hpath]
  dsimp only
  rw [h.walk_eq]
  rfl

theorem Holds.read_eq (h : tree.Holds path text) : tree.read path = .ok text := by
  obtain ⟨hpath, above, hreaches⟩ := h
  rw [read_of_reaches hpath hreaches]
  exact text_file_toUTF8 text

theorem Fails.read_eq (h : tree.Fails path fault) : tree.read path = .error fault := by
  cases h with
  | nul hnul => rw [read, pathFault?, if_pos hnul]
  | long hnul hlong => rw [read, pathFault?, if_neg hnul, if_pos hlong]
  | empty hempty =>
    rw [hempty]
    rfl
  | walk hpath hfails =>
    rw [read, pathFault?_of_walkable hpath]
    dsimp only
    rw [hfails.walk_eq]
    rfl
  | directory hpath hreaches =>
    rw [read_of_reaches hpath hreaches]
    rfl
  | @notText content above hpath hreaches hcontent =>
    rw [read_of_reaches hpath hreaches]
    cases htext : (Node.file content).text with
    | ok text =>
      obtain rfl := Node.file.inj (Node.text_eq_ok_iff.1 htext)
      exact absurd rfl (hcontent text)
    | error cause =>
      unfold Node.text at htext
      dsimp only at htext
      split at htext
      · cases htext
      · exact htext.symm

/-- At a path there is a text, or there is nothing to be read. -/
theorem holds_or_fails (tree : Tree) (path : String) :
    (∃ text, tree.Holds path text) ∨ ∃ fault, tree.Fails path fault := by
  by_cases hnul : '\x00' ∈ path.toList
  · exact Or.inr ⟨_, .nul hnul⟩
  by_cases hlong : longestPath < path.utf8ByteSize
  · exact Or.inr ⟨_, .long hnul hlong⟩
  by_cases hempty : path = ""
  · exact Or.inr ⟨_, .empty hempty⟩
  have hpath : Walkable path := ⟨hnul, Nat.not_lt.1 hlong, hempty⟩
  obtain ⟨⟨node, above⟩, hreaches⟩ | ⟨fault, hfails⟩ :=
    (tree.start path).reaches_or_failsAt (components path)
  · cases node with
    | directory entries => exact Or.inr ⟨_, .directory hpath hreaches⟩
    | file content =>
      by_cases htext : ∃ text : String, content = text.toUTF8
      · obtain ⟨text, rfl⟩ := htext
        exact Or.inl ⟨text, hpath, above, hreaches⟩
      · exact Or.inr ⟨_, .notText hpath hreaches (not_exists.1 htext)⟩
  · exact Or.inr ⟨fault, .walk hpath hfails⟩

/-- **Reading gives the text that is there.** -/
theorem read_eq_ok_iff : tree.read path = .ok text ↔ tree.Holds path text := by
  constructor
  · intro h
    obtain ⟨held, hheld⟩ | ⟨fault, hfault⟩ := tree.holds_or_fails path
    · rw [hheld.read_eq] at h
      exact Except.ok.inj h ▸ hheld
    · rw [hfault.read_eq] at h
      cases h
  · exact Holds.read_eq

/-- **Reading fails for the reason there is.** -/
theorem read_eq_error_iff : tree.read path = .error fault ↔ tree.Fails path fault := by
  constructor
  · intro h
    obtain ⟨held, hheld⟩ | ⟨cause, hcause⟩ := tree.holds_or_fails path
    · rw [hheld.read_eq] at h
      cases h
    · rw [hcause.read_eq] at h
      exact Except.error.inj h ▸ hcause
  · exact Fails.read_eq

/-- **A file is missing** if its path is empty, or fails first at a component that does not exist. -/
theorem fails_missing_iff :
    tree.Fails path .missing ↔
      '\x00' ∉ path.toList ∧ path.utf8ByteSize ≤ longestPath ∧
        (path = "" ∨ (tree.start path).FailsAt (components path) .missing) := by
  constructor
  · intro h
    cases h with
    | empty hempty =>
      rw [hempty]
      exact ⟨by decide, by decide, Or.inl rfl⟩
    | walk hpath hfails => exact ⟨hpath.noNul, hpath.short, Or.inr hfails⟩
  · rintro ⟨hnul, hshort, hempty | hfails⟩
    · exact .empty hempty
    · by_cases hempty : path = ""
      · exact .empty hempty
      · exact .walk ⟨hnul, hshort, hempty⟩ hfails

end Tree

end File
end VarStore
