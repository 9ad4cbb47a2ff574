import Mathlib.Data.List.Induction
import VarStore.Dataset.Directory
import VarStore.Proofs.Dataset.Loading
import VarStore.Proofs.File.Walk

/-!
# Datasets in memory and datasets in a directory

The same datasets can be held in memory or as files.  In memory a name is looked up and any text is
a name.  For a file the name is first looked at for the network, then joined to the directory,
walked, and what is there is read as UTF-8; each of these can fail in a way of its own, and only one
of the failures says that there is no such dataset.

For names that files can have, none of the others occurs.  Such a name does not ask for the network,
since that takes slashes (`isRemote_of_plainName`).  It is one step from the directory, and what is
there was written as text.  So both are the same look-up (`InMemory.fetch_of_holds`,
`InDirectory.fetch_of_holds`), and the order in which the datasets are held does not count, since no
name occurs twice.

* `InMemory.Holds`, `InDirectory.Holds`: a provider has just these datasets.
* `providers_agree`: fetching and loading, for every name that a file can have and every builder.
-/

namespace VarStore
namespace Dataset

open File (PlainName)

variable {datasets : List (String × String)} {name : String}

/-! ## The datasets held -/

/-- There is a map, and it has just these datasets. -/
def InMemory.Holds (m : InMemory) (datasets : List (String × String)) : Prop :=
  ∃ texts, m.texts = some texts ∧ texts.Perm datasets

/-- There is a directory, and it has just these datasets as files. -/
structure InDirectory.Holds (d : InDirectory) (tree : File.Tree)
    (datasets : List (String × String)) : Prop where
  noNul : '\x00' ∉ d.root.toList
  files : ∃ entries, tree.entries? d.root = some entries ∧
    entries.Perm (datasets.map fun p => (p.1, .file p.2.toUTF8))

/-- Datasets of different names that are put in one after the other are held together. -/
theorem InMemory.holds_foldl_including (hdatasets : (datasets.map Prod.fst).Nodup) :
    (datasets.foldl (fun m p => m.including p.1 p.2) InMemory.empty).Holds datasets := by
  induction datasets using List.reverseRecOn with
  | nil => exact ⟨[], rfl, List.Perm.refl []⟩
  | append_singleton datasets p ih =>
    rw [List.map_append, List.nodup_append] at hdatasets
    obtain ⟨hnodup, -, hfresh⟩ := hdatasets
    obtain ⟨texts, htexts, hperm⟩ := ih hnodup
    have hkept : (texts.filter fun q => q.1 ≠ p.1) = texts := by
      refine List.filter_eq_self.2 fun q hq => decide_eq_true ?_
      have hmem : q.1 ∈ datasets.map Prod.fst := List.mem_map_of_mem (hperm.mem_iff.1 hq)
      exact hfresh _ hmem _ (List.mem_singleton_self _)
    refine ⟨p :: texts, ?_, ?_⟩
    · rw [List.foldl_append, List.foldl_cons, List.foldl_nil, including, insert, htexts,
        Option.getD_some, hkept]
    · exact (hperm.cons p).trans (List.perm_append_singleton p datasets).symm

/-! ## Fetching -/

theorem InMemory.fetch_of_holds {m : InMemory} (hdatasets : (datasets.map Prod.fst).Nodup)
    (hm : m.Holds datasets) (name : String) :
    m.fetch name =
      match datasets.lookup name with
      | some text => .ok text
      | none => .error (.notFound name) := by
  obtain ⟨texts, htexts, hperm⟩ := hm
  have hnodup : (texts.map Prod.fst).Nodup := (hperm.map _).nodup_iff.2 hdatasets
  have htext : m.text? name = datasets.lookup name := by
    rw [text?, htexts, Option.getD_some, lookup_eq_of_perm hnodup hperm]
  rw [fetch_eq, htext, htexts]
  rfl

/-- A name that asks for the network has slashes. -/
theorem isRemote_of_plainName (hname : PlainName name) : InDirectory.isRemote name = false := by
  have hslashes : ∀ protocol : String, '/' ∈ protocol.toList →
      protocol.toList.isPrefixOf name.toList = false := by
    intro protocol hslash
    refine Bool.eq_false_iff.2 fun h => hname.noSlash ?_
    exact (List.isPrefixOf_iff_prefix.1 h).subset hslash
  unfold InDirectory.isRemote
  rw [hslashes _ (by decide), hslashes _ (by decide)]
  rfl

/-- What is held as files is looked up as the texts are. -/
theorem lookup_map_file (datasets : List (String × String)) (name : String) :
    (datasets.map fun p => (p.1, File.Node.file p.2.toUTF8)).lookup name =
      (datasets.lookup name).map fun text => .file text.toUTF8 := by
  induction datasets with
  | nil => rfl
  | cons p datasets ih =>
    obtain ⟨t, text⟩ := p
    rw [List.map_cons]
    by_cases hn : name = t
    · rw [hn, List.lookup_cons_self, List.lookup_cons_self, Option.map_some]
    · rw [lookup_cons_of_ne hn, lookup_cons_of_ne hn, ih]

theorem InDirectory.fetch_of_holds {d : InDirectory} {tree : File.Tree}
    (hdatasets : (datasets.map Prod.fst).Nodup) (hd : d.Holds tree datasets)
    (hname : PlainName name) (hlength : (d.path name).utf8ByteSize ≤ File.longestPath) :
    d.fetch tree.read name =
      match datasets.lookup name with
      | some text => .ok text
      | none => .error (.notFound name) := by
  obtain ⟨entries, hentries, hperm⟩ := hd.files
  have hnodup : (entries.map Prod.fst).Nodup := by
    rw [(hperm.map _).nodup_iff, List.map_map]
    exact hdatasets
  have hread := File.Tree.read_join hname hd.noNul hlength hentries
  rw [lookup_eq_of_perm hnodup hperm, lookup_map_file] at hread
  unfold fetch path
  rw [isRemote_of_plainName hname, if_neg Bool.false_ne_true, hread]
  cases datasets.lookup name with
  | none => rfl
  | some text =>
    dsimp only [Option.map_some]
    rw [File.text_file_toUTF8]

/-! ## The two together -/

/-- **Datasets in memory and in a directory are the same datasets.**  If both providers have just
these datasets, then for every name that a file can have, whether there is such a dataset or not,
fetching gives the same text or the same fault, and loading does the same to every builder.  If the
dataset is there, this is its text, and the calls and the event that go with it; if not, the fault
says that it is not found, and nothing is done. -/
theorem providers_agree {m : InMemory} {d : InDirectory} {tree : File.Tree}
    (hdatasets : (datasets.map Prod.fst).Nodup) (hm : m.Holds datasets)
    (hd : d.Holds tree datasets) (hname : PlainName name)
    (hlength : (d.path name).utf8ByteSize ≤ File.longestPath) :
    d.fetch tree.read name = m.fetch name ∧
    (∀ (σ : Type) (b : Builder σ) (w : Desk σ),
      loadOn (d.fetch tree.read) name b w = loadOn m.fetch name b w ∧
      load (d.fetch tree.read) name b w.built = load m.fetch name b w.built) ∧
    (∀ text, (name, text) ∈ datasets →
      m.fetch name = .ok text ∧
      ∀ (σ : Type) (b : Builder σ) (w : Desk σ),
        loadOn m.fetch name b w =
          (.ok (patternLines text).length,
            ⟨(protocol text).foldl b.perform w.built, w.calls ++ protocol text,
              w.events ++ [.datasetLoaded name (patternLines text).length]⟩)) ∧
    (name ∉ datasets.map Prod.fst →
      ∃ fault, m.fetch name = .error fault ∧
        fault.message = "the data '" ++ name ++ "' is not found" ∧
        ∀ (σ : Type) (b : Builder σ) (w : Desk σ), loadOn m.fetch name b w = (.error fault, w)) := by
  have hmemory := InMemory.fetch_of_holds hdatasets hm name
  have hsame : d.fetch tree.read name = m.fetch name :=
    (InDirectory.fetch_of_holds hdatasets hd hname hlength).trans hmemory.symm
  refine ⟨hsame, ?_, ?_, ?_⟩
  · intro σ b w
    constructor
    · rw [loadOn_eq, loadOn_eq, hsame]
    · rw [load_eq, load_eq, hsame]
  · intro text htext
    rw [(lookup_eq_some_iff hdatasets name text).2 htext] at hmemory
    refine ⟨hmemory, fun σ b w => ?_⟩
    rw [loadOn_eq, hmemory]
  · intro habsent
    have hnone : datasets.lookup name = none := by
      refine Option.eq_none_iff_forall_ne_some.2 fun text htext => habsent ?_
      exact List.mem_map.2 ⟨_, (lookup_eq_some_iff hdatasets name text).1 htext, rfl⟩
    rw [hnone] at hmemory
    refine ⟨.notFound name, hmemory, rfl, fun σ b w => ?_⟩
    rw [loadOn_eq, hmemory]

/-- Datasets with odd names and texts. -/
def oddities : List (String × String) :=
  [("http:", "a\r\nb"), (" ä. ", "\x00#\n"), ("...", "")]

/-- The oddities as files, in another order. -/
def oddTree : File.Tree :=
  let files := .directory (oddities.reverse.map fun p => (p.1, .file p.2.toUTF8))
  ⟨⟨.directory [("data", files)], []⟩, ⟨.emptyDirectory, []⟩⟩

/-- They are held together in memory and in a directory; one of them is there, and one is not. -/
theorem oddities_agree :
    let m := oddities.foldl (fun m p => m.including p.1 p.2) InMemory.empty
    let d : InDirectory := ⟨"/data/"⟩
    m.Holds oddities ∧ d.Holds oddTree oddities ∧
    d.fetch oddTree.read "http:" = .ok "a\r\nb" ∧
    ∃ fault, d.fetch oddTree.read "https:" = .error fault ∧
      fault.message = "the data 'https:' is not found" := by
  have hdatasets : (oddities.map Prod.fst).Nodup := by decide
  have hm := InMemory.holds_foldl_including hdatasets
  have hd : InDirectory.Holds ⟨"/data/"⟩ oddTree oddities :=
    ⟨by decide, _, rfl, (List.reverse_perm oddities).map _⟩
  have hhttp : PlainName "http:" :=
    ⟨by decide, by decide, by decide, by decide, by decide, by decide⟩
  have hhttps : PlainName "https:" :=
    ⟨by decide, by decide, by decide, by decide, by decide, by decide⟩
  obtain ⟨hsame, -, hpresent, -⟩ := providers_agree hdatasets hm hd hhttp (by decide)
  obtain ⟨hsame', -, -, habsent⟩ := providers_agree hdatasets hm hd hhttps (by decide)
  refine ⟨hm, hd, ?_, ?_⟩
  · rw [hsame]
    exact (hpresent _ (by decide)).1
  · obtain ⟨fault, hfault, hmessage, -⟩ := habsent (by decide)
    exact ⟨fault, hsame'.trans hfault, hmessage⟩

end Dataset
end VarStore
