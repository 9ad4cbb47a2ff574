import VarStore.Proofs.CommandLine.Words

/-!
# Requests go to the command line and come back

What was read is looked up option by option.  A request holds one setting for an option at most, so
the order in which the settings were given does not matter (`getD_findSome?`), and where none was
given the request holds what is taken for granted.  The format and the wish for more words are
looked up on both sides of the command, in the row that both make together.

* `commandOf_eq`: the settings behind a command make the command.
* `exists_spelled`: each request can be spelled.
* `read_of_spelled`: what spells a request is read as that request.
-/

namespace VarStore
namespace CommandLine

variable {x : Setting} {r : Request} {xs ys : List Setting} {args : List String} {p : Progress}

/-! ## Looking up what was read -/

namespace Setting

-- What a setting gives for one option, if it is a setting of that option.

def root? : Setting → Option String
  | root path => some path
  | _ => none

def threads? : Setting → Option UInt64
  | threads n => some n
  | _ => none

def ops? : Setting → Option UInt64
  | ops n => some n
  | _ => none

def collection? : Setting → Option String
  | collection name => some name
  | _ => none

def keys? : Setting → Option UInt64
  | keys n => some n
  | _ => none

def config? : Setting → Option String
  | config path => some path
  | _ => none

def format? : Setting → Option Format
  | format f => some f
  | _ => none

end Setting

section Lookup

variable {α : Type} {f : Setting → Option α} {v a d : α}

/-- What is found for an option is what the request holds for it. -/
theorem eq_of_findSome?_eq_some (hholds : ∀ y ∈ xs, y ∈ r.settings) (hx : x ∈ r.settings)
    (hv : f x = some v) (honly : ∀ y, f y ≠ none → y.switch = x.switch)
    (hfound : xs.findSome? f = some a) : a = v := by
  obtain ⟨y, hy, ha⟩ := List.exists_of_findSome?_eq_some hfound
  have hne : f y ≠ none := by
    rw [ha]
    exact Option.some_ne_none a
  obtain rfl := eq_of_switch_eq (hholds y hy) hx (honly y hne)
  exact Option.some.inj (ha.symm.trans hv)

theorem findSome?_eq_some (hholds : ∀ y ∈ xs, y ∈ r.settings) (hv : f x = some v)
    (honly : ∀ y, f y ≠ none → y.switch = x.switch) (hx : x ∈ xs) :
    xs.findSome? f = some v := by
  cases hfound : xs.findSome? f with
  | none =>
    rw [List.findSome?_eq_none_iff.1 hfound x hx] at hv
    nomatch hv
  | some a => rw [eq_of_findSome?_eq_some hholds (hholds x hx) hv honly hfound]

/-- If what is not found is as it is taken for granted, then the look-up gives what the request
holds. -/
theorem getD_findSome? (hholds : ∀ y ∈ xs, y ∈ r.settings) (hx : x ∈ r.settings)
    (hv : f x = some v) (honly : ∀ y, f y ≠ none → y.switch = x.switch) (h : x ∈ xs ∨ v = d) :
    (xs.findSome? f).getD d = v := by
  rcases h with hmem | rfl
  · rw [findSome?_eq_some hholds hv honly hmem, Option.getD_some]
  · cases hfound : xs.findSome? f with
    | none => rfl
    | some a => exact eq_of_findSome?_eq_some hholds hx hv honly hfound

end Lookup

section Command

variable (hholds : ∀ x ∈ p.settings, x ∈ r.settings)
variable (hrest : ∀ x ∈ r.command.settings, x ∈ p.settings ∨ x ∈ Setting.standard)

include hholds hrest

/-- An option of the command, looked up among the settings: what the request holds for it. -/
theorem getD_findSome?_of_command {α : Type} {f : Setting → Option α} {v d : α} (x : Setting)
    (hx : x ∈ r.command.settings) (hv : f x = some v)
    (honly : ∀ y, f y ≠ none → y.switch = x.switch) (hstandard : x ∈ Setting.standard → v = d) :
    (p.settings.findSome? f).getD d = v :=
  getD_findSome? hholds (mem_settings_of_command hx) hv honly ((hrest x hx).imp_right hstandard)

theorem commandOf_patterns {q : PatternsRequest} (hcommand : r.command = .patterns q)
    (hlevel : p.level = .patterns) (hdataset : p.dataset = some q.dataset) :
    commandOf p = .ok (.patterns q) := by
  have hroot : (p.settings.findSome? Setting.root?).getD "." = q.root := by
    refine getD_findSome?_of_command hholds hrest (.root q.root) ?_ rfl ?_ ?_
    · simp [hcommand, Command.settings]
    · exact fun y hy => by cases y <;> first | rfl | exact absurd rfl hy
    · simp [Setting.standard]
  have hmem : .list ∈ p.settings ↔ .list ∈ r.settings := by
    refine ⟨hholds _, fun h => ?_⟩
    have hcommand : .list ∈ r.command.settings := by
      rw [mem_settings_iff] at h
      simpa using h
    exact (hrest _ hcommand).resolve_right (by decide)
  have hlist : p.has .list = q.list := by
    have hhas : p.has .list = true ↔ .list ∈ p.settings :=
      Progress.has_eq_true_iff_mem (x := .list) fun y hy => by
        cases y <;> first | rfl | cases hy
    rw [Bool.eq_iff_iff, hhas, hmem, list_mem_settings_iff hcommand]
  have hcommandOf : commandOf p = .ok (.patterns ⟨q.dataset,
      (p.settings.findSome? Setting.root?).getD ".", p.has .list⟩) := by
    rw [commandOf, hlevel, hdataset]
    rfl
  rw [hcommandOf, hroot, hlist]

theorem findSome?_config {q : StressRequest} (hcommand : r.command = .stress q) :
    p.settings.findSome? Setting.config? = q.config := by
  cases hq : q.config with
  | none =>
    rw [List.findSome?_eq_none_iff]
    intro y hy
    have hheld := hholds y hy
    cases y with
    | config path =>
      rw [config_mem_settings_iff hcommand, hq] at hheld
      nomatch hheld
    | _ => rfl
  | some path =>
    have hmem : .config path ∈ r.command.settings := by
      simp [hcommand, Command.settings, hq]
    refine findSome?_eq_some (x := .config path) hholds rfl ?_ ?_
    · exact fun y hy => by cases y <;> first | rfl | exact absurd rfl hy
    · exact (hrest _ hmem).resolve_right (by simp [Setting.standard])

theorem commandOf_stress {q : StressRequest} (hcommand : r.command = .stress q)
    (hlevel : p.level = .stress) : commandOf p = .ok (.stress q) := by
  have hthreads : (p.settings.findSome? Setting.threads?).getD 4 = q.threads := by
    refine getD_findSome?_of_command hholds hrest (.threads q.threads) ?_ rfl ?_ ?_
    · simp [hcommand, Command.settings]
    · exact fun y hy => by cases y <;> first | rfl | exact absurd rfl hy
    · simp [Setting.standard]
  have hops : (p.settings.findSome? Setting.ops?).getD 10000 = q.ops := by
    refine getD_findSome?_of_command hholds hrest (.ops q.ops) ?_ rfl ?_ ?_
    · simp [hcommand, Command.settings]
    · exact fun y hy => by cases y <;> first | rfl | exact absurd rfl hy
    · simp [Setting.standard]
  have hcollection :
      (p.settings.findSome? Setting.collection?).getD "GLOBAL" = q.collection := by
    refine getD_findSome?_of_command hholds hrest (.collection q.collection) ?_ rfl ?_ ?_
    · simp [hcommand, Command.settings]
    · exact fun y hy => by cases y <;> first | rfl | exact absurd rfl hy
    · simp [Setting.standard]
  have hkeys : (p.settings.findSome? Setting.keys?).getD 16 = q.keys := by
    refine getD_findSome?_of_command hholds hrest (.keys q.keys) ?_ rfl ?_ ?_
    · simp [hcommand, Command.settings]
    · exact fun y hy => by cases y <;> first | rfl | exact absurd rfl hy
    · simp [Setting.standard]
  have hcommandOf : commandOf p = .ok (.stress ⟨
      (p.settings.findSome? Setting.threads?).getD 4,
      (p.settings.findSome? Setting.ops?).getD 10000,
      (p.settings.findSome? Setting.collection?).getD "GLOBAL",
      (p.settings.findSome? Setting.keys?).getD 16,
      p.settings.findSome? Setting.config?⟩) := by
    rw [commandOf, hlevel]
    rfl
  rw [hcommandOf, hthreads, hops, hcollection, hkeys, findSome?_config hholds hrest hcommand]

/-- **The settings behind a command make the command**, in whatever order they were given. -/
theorem commandOf_eq (hlevel : p.level = r.command.level)
    (hdataset : p.dataset = r.command.dataset?) : commandOf p = .ok r.command := by
  cases hcommand : r.command with
  | patterns q =>
    rw [hcommand] at hlevel hdataset
    exact commandOf_patterns hholds hrest hcommand hlevel hdataset
  | stress q =>
    rw [hcommand] at hlevel
    exact commandOf_stress hholds hrest hcommand hlevel

end Command

/-! ## The request -/

theorem formatOf_eq (hgiven : r.Given (xs ++ ys)) {front behind : Progress}
    (hfront : front.settings = xs) (hbehind : behind.settings = ys) :
    ((formatOf behind).or (formatOf front)).getD .text = r.format := by
  have hpick : (formatOf behind).or (formatOf front) = (ys ++ xs).findSome? Setting.format? := by
    rw [List.findSome?_append, formatOf, formatOf, hfront, hbehind]
    rfl
  have hmem : .format r.format ∈ r.settings := mem_settings_iff.2 (.inr (.inl rfl))
  rw [hpick]
  refine getD_findSome? (r := r) (x := .format r.format) ?_ hmem rfl ?_ ?_
  · exact fun y hy => hgiven.holds y (List.perm_append_comm.mem_iff.1 hy)
  · exact fun y hy => by cases y <;> first | rfl | exact absurd rfl hy
  · refine (hgiven.rest _ hmem).imp List.perm_append_comm.mem_iff.1 fun h => ?_
    simpa [Setting.standard] using h

theorem verbose_eq (hgiven : r.Given (xs ++ ys)) {front behind : Progress}
    (hfront : front.settings = xs) (hbehind : behind.settings = ys) :
    (front.has .verbose || behind.has .verbose) = r.verbose := by
  have hhas (p : Progress) : p.has .verbose = true ↔ .verbose ∈ p.settings :=
    Progress.has_eq_true_iff_mem (x := .verbose) fun y hy => by
      cases y <;> first | rfl | cases hy
  rw [Bool.eq_iff_iff, Bool.or_eq_true, hhas, hhas, hfront, hbehind, ← List.mem_append,
    ← verbose_mem_settings_iff]
  exact ⟨hgiven.holds _, fun h => (hgiven.rest _ h).resolve_right (by decide)⟩

/-- **What spells a request is read as the request.** -/
theorem read_eq (htexts : ∀ t ∈ r.texts, t ≠ "") (h : r.Spelled args) : read args = .ok r := by
  obtain @⟨xs, ys, front, behind, hgiven, hfront, hwords, hbehind⟩ := h
  have hsound : ∀ x ∈ xs ++ ys, ¬ x.IsVoid := fun x hx => not_isVoid htexts (hgiven.holds x hx)
  have honce := hgiven.once
  rw [List.map_append, List.nodup_append] at honce
  have hxs : (Progress.start .top).Admits xs :=
    ⟨hfront, fun x hx => hsound x (List.mem_append_left ys hx), honce.1⟩
  have hys : (Progress.start r.command.level).Admits ys :=
    ⟨fun x hx => allows_of_mem_settings (hgiven.holds x (List.mem_append_right xs hx)),
      fun x hx => hsound x (List.mem_append_right xs hx), honce.2.1⟩
  obtain ⟨p, hread, hlevel, hsettings, hdataset⟩ := exists_readBehind hbehind hys
  have hparts : readFront (.start .top) (front ++ r.command.word :: behind) =
      .ok ⟨(Progress.start .top).extend xs, p⟩ := by
    have hstart := Progress.ready_start .top
    rw [readFront_append hwords hstart hxs, readFront_command _ (hstart.extend xs), hread]
    rfl
  have hcommand : commandOf p = .ok r.command := by
    refine commandOf_eq (fun x hx => ?_) (fun x hx => ?_) hlevel hdataset
    · rw [hsettings] at hx
      exact hgiven.holds x (List.mem_append_right xs hx)
    · rw [hsettings]
      refine (hgiven.rest x (mem_settings_of_command hx)).imp_left fun hmem => ?_
      exact (List.mem_append.1 hmem).resolve_left fun h =>
        not_allows_of_command hx (hfront x h)
  have hfrontSettings : ((Progress.start .top).extend xs).settings = xs := rfl
  have hformat := formatOf_eq hgiven hfrontSettings hsettings
  have hverbose := verbose_eq hgiven hfrontSettings hsettings
  have hsettle := Progress.settle_eq (p := (Progress.start .top).extend xs) rfl
  have hread : read (front ++ r.command.word :: behind) =
      .ok ⟨((Progress.start .top).extend xs).has .verbose || p.has .verbose,
        ((formatOf p).or (formatOf ((Progress.start .top).extend xs))).getD .text, r.command⟩ := by
    rw [read, hparts]
    simp only [bind, Except.bind, hcommand, hsettle]
    rfl
  rw [hread, hformat, hverbose]

/-- Each setting has a word. -/
theorem Setting.exists_word (x : Setting) : ∃ word, x.Word word := by
  have hnumeral (n : UInt64) : Numeral n (String.ofList (Nat.toDigits 10 n.toNat)) :=
    ⟨[], 0, .inl rfl, String.toList_ofList⟩
  cases x with
  | verbose => exact ⟨_, .bare rfl⟩
  | list => exact ⟨_, .bare rfl⟩
  | format f => exact ⟨_, .valued (x := .format f) rfl⟩
  | root path => exact ⟨_, .valued (x := .root path) rfl⟩
  | collection name => exact ⟨_, .valued (x := .collection name) rfl⟩
  | config path => exact ⟨_, .valued (x := .config path) rfl⟩
  | threads n => exact ⟨_, .valued (x := .threads n) (hnumeral n)⟩
  | ops n => exact ⟨_, .valued (x := .ops n) (hnumeral n)⟩
  | keys n => exact ⟨_, .valued (x := .keys n) (hnumeral n)⟩

theorem exists_words (xs : List Setting) : ∃ args, Words xs args := by
  induction xs with
  | nil => exact ⟨[], .nil⟩
  | cons x xs ih =>
    obtain ⟨word, hword⟩ := x.exists_word
    obtain ⟨args, hargs⟩ := ih
    exact ⟨word :: args, .cons hword hargs⟩

/-- A request is spelled by all that it holds behind its command, with the dataset at the end. -/
theorem exists_spelled (r : Request) : ∃ args, r.Spelled args := by
  have hgiven : r.Given ([] ++ r.settings) :=
    ⟨fun _ hx => hx, nodup_settings r, fun _ hx => .inl hx⟩
  obtain ⟨args, hwords⟩ := exists_words r.settings
  obtain ⟨behind, hbehind⟩ : ∃ behind, r.command.Behind r.settings behind := by
    cases r.command with
    | patterns q => exact ⟨_, .last hwords⟩
    | stress q => exact ⟨_, .stress hwords⟩
  exact ⟨_, .intro hgiven (fun _ hx => nomatch hx) .nil hbehind⟩

/-- **Requests go to the command line and come back.**  A request whose texts are not empty can be
spelled, and all arguments that spell it are read as that request: the options in any order, each
once at most, those that have their standard value perhaps left out, those that are for every
command on either side of its name, and the dataset bare or at the end. -/
theorem read_of_spelled (r : Request) (htexts : ∀ t ∈ r.texts, t ≠ "") :
    (∃ args, r.Spelled args) ∧ ∀ args, r.Spelled args → read args = .ok r :=
  ⟨exists_spelled r, fun _ h => read_eq htexts h⟩

/-- A request for a dataset that looks like an option. -/
def oddRequest : Request :=
  { verbose := true, format := .json, command := .patterns ⟨"--help", "a=b", true⟩ }

/-- The dataset stands behind a double hyphen, the value of an option holds an equals sign, and the
options for every command stand on both sides. -/
theorem oddRequest_comes_back :
    (∀ t ∈ oddRequest.texts, t ≠ "") ∧
      oddRequest.Spelled
        ["--format=json", "patterns", "--list", "--root=a=b", "--verbose", "--", "--help"] ∧
      read ["--format=json", "patterns", "--list", "--root=a=b", "--verbose", "--", "--help"] =
        .ok oddRequest := by
  have htexts : ∀ t ∈ oddRequest.texts, t ≠ "" := by decide
  have hspelled : oddRequest.Spelled
      ["--format=json", "patterns", "--list", "--root=a=b", "--verbose", "--", "--help"] := by
    have hgiven : oddRequest.Given ([.format .json] ++ [.list, .root "a=b", .verbose]) :=
      ⟨by decide, by decide, by decide⟩
    have hfront : Words [.format .json] ["--format=json"] :=
      .cons (.valued (x := .format .json) rfl) .nil
    have hbehind : Words [.list, .root "a=b", .verbose] ["--list", "--root=a=b", "--verbose"] :=
      .cons (.bare rfl) (.cons (.valued (x := .root "a=b") rfl) (.cons (.bare rfl) .nil))
    exact .intro hgiven (by decide) hfront (.last hbehind)
  exact ⟨htexts, hspelled, (read_of_spelled oddRequest htexts).2 _ hspelled⟩

end CommandLine
end VarStore
