import VarStore.File.Tree
import VarStore.Proofs.Lookup

/-!
# A file below a directory

The path of a name below a directory is made by joining texts, and taken apart again at the slashes.
What stands behind the last slash is not the name if the name has slashes itself, and the way up to
there is not the way to the directory: the text of a directory may be empty or end in a slash, and
then it has one component more, an empty one, on which a walk does not move.

So a name that is one component (`PlainName`) is one step from the directory, however the directory
is written (`walk_join`).  What is read there is what the directory holds under the name
(`read_join`).

* `PlainName`: the names a file can have.
* `IsEntryName`: the components that a directory is asked for.
* `Tree.entries?`: what the directory at a path holds.
-/

namespace VarStore
namespace File

variable {name directory : String}

/-- A name that a file can have. -/
structure PlainName (name : String) : Prop where
  nonempty : name ≠ ""
  short : name.utf8ByteSize ≤ longestName
  noSlash : '/' ∉ name.toList
  noNul : '\x00' ∉ name.toList
  notHere : name ≠ "."
  notUp : name ≠ ".."

/-- A component that is looked up: none of those with a meaning of their own, and not too long. -/
structure IsEntryName (name : String) : Prop where
  nonempty : name ≠ ""
  notHere : name ≠ "."
  notUp : name ≠ ".."
  short : name.utf8ByteSize ≤ longestName

instance (name : String) : Decidable (IsEntryName name) :=
  decidable_of_iff (name ≠ "" ∧ name ≠ "." ∧ name ≠ ".." ∧ name.utf8ByteSize ≤ longestName)
    ⟨fun h => ⟨h.1, h.2.1, h.2.2.1, h.2.2.2⟩, fun h => ⟨h.nonempty, h.notHere, h.notUp, h.short⟩⟩

theorem PlainName.isEntryName (h : PlainName name) : IsEntryName name :=
  ⟨h.nonempty, h.notHere, h.notUp, h.short⟩

/-! ## Paths -/

theorem isAbsolute_of_notMem (h : '/' ∉ name.toList) : isAbsolute name = false := by
  refine Bool.eq_false_iff.2 fun habsolute => h ?_
  exact List.mem_of_head? (beq_iff_eq.1 habsolute)

/-- A name without slashes is its own component. -/
theorem components_of_notMem (h : '/' ∉ name.toList) : components name = [name] := by
  unfold components
  rw [List.splitOn_eq_singleton h, List.map_singleton, String.ofList_toList]

/-- Two paths with a slash between them have the components of both. -/
theorem components_append_slash (p q : String) :
    components (p ++ "/" ++ q) = components p ++ components q := by
  unfold components
  have hchars : (p ++ "/" ++ q).toList = p.toList ++ '/' :: q.toList := by simp
  rw [hchars, List.splitOn_append_cons_self, List.map_append]

/-- A directory that is written with a slash at its end. -/
theorem eq_append_slash (h : directory.toList.getLast? = some '/') :
    ∃ p : String, directory = p ++ "/" := by
  obtain ⟨p, hp⟩ := List.getLast?_eq_some_iff.1 h
  refine ⟨String.ofList p, ?_⟩
  rw [← String.toList_inj, hp]
  simp

/-- **The components of a joined path.**  They are those of the directory and the name; an empty one
that the directory has at its end makes room for the name. -/
theorem components_join (hname : PlainName name) (directory : String) :
    components (join directory name) = components directory ++ [name] ∨
    ∃ dirs, components directory = dirs ++ [""] ∧
      components (join directory name) = dirs ++ [name] := by
  have hplain := components_of_notMem hname.noSlash
  unfold join
  rw [isAbsolute_of_notMem hname.noSlash, if_neg Bool.false_ne_true]
  unfold separator
  cases hlast : directory.toList.getLast? with
  | none =>
    have hempty : directory = "" := by simpa using hlast
    refine Or.inr ⟨[], by rw [hempty]; rfl, ?_⟩
    rw [hempty]
    simpa using hplain
  | some c =>
    by_cases hc : c = '/'
    · rw [hc] at hlast ⊢
      obtain ⟨p, rfl⟩ := eq_append_slash hlast
      refine Or.inr ⟨components p, ?_, ?_⟩
      · have hend := components_append_slash p ""
        rwa [String.append_empty] at hend
      · simpa [hplain] using components_append_slash p name
    · refine Or.inl ?_
      rw [Option.any_some, decide_eq_true hc, if_pos rfl, components_append_slash, hplain]

/-- A joined path begins where the path of the directory does. -/
theorem isAbsolute_join (hname : PlainName name) (directory : String) :
    isAbsolute (join directory name) = isAbsolute directory := by
  unfold join
  rw [isAbsolute_of_notMem hname.noSlash, if_neg Bool.false_ne_true]
  cases hchars : directory.toList with
  | nil =>
    have hempty : directory = "" := by simpa using hchars
    rw [hempty]
    have hjoined : "" ++ separator "" ++ name = name := by simp [separator]
    rw [hjoined, isAbsolute_of_notMem hname.noSlash]
    rfl
  | cons c cs =>
    unfold isAbsolute
    rw [String.toList_append, String.toList_append, hchars]
    rfl

theorem mem_join (hname : PlainName name) {c : Char} (hc : c ≠ '/') :
    c ∈ (join directory name).toList ↔ c ∈ directory.toList ∨ c ∈ name.toList := by
  have hseparator : c ∉ (separator directory).toList := by
    unfold separator
    split <;> simp [hc]
  unfold join
  rw [isAbsolute_of_notMem hname.noSlash, if_neg Bool.false_ne_true]
  simp [hseparator]

/-- There is nothing wrong with a joined path that is not too long. -/
theorem pathFault?_join (hname : PlainName name) (hnul : '\x00' ∉ directory.toList)
    (hlength : (join directory name).utf8ByteSize ≤ longestPath) :
    pathFault? (join directory name) = none := by
  have hjoined : '\x00' ∉ (join directory name).toList := by
    rw [mem_join hname (by decide)]
    exact not_or.2 ⟨hnul, hname.noNul⟩
  have hnonempty : join directory name ≠ "" := by
    intro hempty
    obtain ⟨c, hc⟩ := List.exists_mem_of_ne_nil _ (mt String.toList_eq_nil_iff.1 hname.nonempty)
    have hslash : c ≠ '/' := fun h => hname.noSlash (h ▸ hc)
    have hmem : c ∈ (join directory name).toList := (mem_join hname hslash).2 (Or.inr hc)
    rw [hempty] at hmem
    cases hmem
  unfold pathFault?
  rw [if_neg hjoined, if_neg (by omega), if_neg hnonempty]

/-! ## Walking -/

namespace Trail

variable {t u : Trail}

/-- An empty component leads nowhere else. -/
theorem eq_of_step_empty (h : t.step "" = .ok u) : u = t := by
  unfold step at h
  cases hnode : t.node with
  | file content => rw [hnode] at h; cases h
  | directory entries =>
    rw [hnode] at h
    exact (Except.ok.inj h).symm

/-- A step along a component that is looked up goes to what the directory holds under it. -/
theorem step_of_isEntryName {entries : List (String × Node)} (hname : IsEntryName name)
    (hnode : t.node = .directory entries) :
    t.step name =
      match entries.lookup name with
      | none => .error .missing
      | some node => .ok ⟨node, t.node :: t.above⟩ := by
  unfold step
  rw [hnode]
  dsimp only
  refine (if_neg (not_or.2 ⟨hname.nonempty, hname.notHere⟩)).trans ?_
  refine (if_neg hname.notUp).trans ?_
  exact if_neg (Nat.not_lt.2 hname.short)

/-- **A name is one step from its directory**, however the directory is written. -/
theorem walk_join (hname : PlainName name) (h : t.walk (components directory) = .ok u) :
    t.walk (components (join directory name)) = u.step name := by
  have hlast : ∀ v : Trail, v.walk [name] = v.step name := by
    intro v
    rw [walk_cons]
    cases v.step name <;> rfl
  rcases components_join hname directory with hjoin | ⟨dirs, hdirectory, hjoin⟩
  · rw [hjoin, walk_append, h]
    exact hlast u
  · rw [hdirectory, walk_append] at h
    rw [hjoin, walk_append]
    cases hdirs : t.walk dirs with
    | error e => rw [hdirs] at h; cases h
    | ok v =>
      rw [hdirs] at h
      have huv : v.step "" = .ok u := by
        change (v.step "").bind _ = _ at h
        cases hstep : v.step "" with
        | error e => rw [hstep] at h; cases h
        | ok x => rw [hstep] at h; exact h
      rw [eq_of_step_empty huv]
      exact hlast v

end Trail

/-! ## Reading -/

/-- What the directory at a path holds, if there is a directory. -/
def Tree.entries? (tree : Tree) (path : String) : Option (List (String × Node)) :=
  match (tree.start path).walk (components path) with
  | .ok ⟨.directory entries, _⟩ => some entries
  | _ => none

/-- Text that was written is read again. -/
theorem text_file_toUTF8 (text : String) : (Node.file text.toUTF8).text = .ok text := by
  have hread : String.fromUTF8? text.toUTF8 = some text := by
    unfold String.fromUTF8?
    rw [String.toUTF8_eq_toByteArray, dif_pos text.isValidUTF8]
    rfl
  unfold Node.text
  dsimp only
  rw [hread]

/-- **What is read below a directory** is what the directory holds under the name. -/
theorem Tree.read_join {tree : Tree} {entries : List (String × Node)} (hname : PlainName name)
    (hnul : '\x00' ∉ directory.toList)
    (hlength : (join directory name).utf8ByteSize ≤ longestPath)
    (hentries : tree.entries? directory = some entries) :
    tree.read (join directory name) =
      match entries.lookup name with
      | none => .error .missing
      | some node => node.text := by
  unfold read
  rw [pathFault?_join hname hnul hlength]
  dsimp only
  have hstart : tree.start (join directory name) = tree.start directory := by
    unfold start
    rw [isAbsolute_join hname]
  unfold entries? at hentries
  split at hentries
  · next held above hwalk =>
    obtain rfl := Option.some.inj hentries
    rw [hstart, Trail.walk_join hname hwalk, Trail.step_of_isEntryName hname.isEntryName rfl]
    cases held.lookup name <;> rfl
  · cases hentries

end File
end VarStore
