import Mathlib.Data.Finset.Basic
import VarStore.Proofs.Registry.Names

/-!
# What the log of a registry tells

A registry tells of a collection that it makes and of one that it lets go.  Whoever listens from the
beginning can keep a set of names by these events alone, and it should be the set of the names that
are registered.  Three things could spoil it.  An event could be missing, or told twice, because the
name was asked for in another spelling; a failed removal could be told of; and the events of the
collections, which run through the same log, could be mistaken for events of the registry.  And one
thing does spoil it, because nothing is said of it: all names go when the registry is cleared.  So
the listener has to begin anew from there, with nothing.

What carries the proof is what a request can do (`perform_cases`).  It leaves the names alone and
tells of nothing that is about names; or it takes up one name, which was free, and tells of that; or
it lets one go, which was taken, and tells of that.

* `replay`: the names according to a log.
* `Coherent`: a log that takes up only free names and lets go only taken ones.
* `recent`: the log since the registry was made or last cleared.
* `log_replays_to_names`: the log is coherent and gives the names, after every run.
-/

namespace VarStore

namespace Event

/-- The name of which a registry tells, and whether it has been taken up. -/
def mark? : Event → Option (String × Bool)
  | collectionCreated name _ => some (name, true)
  | collectionRemoved name => some (name, false)
  | _ => none

/-- The names that are taken after the event. -/
def names (taken : Finset String) (e : Event) : Finset String :=
  match e.mark? with
  | none => taken
  | some (name, true) => insert name taken
  | some (name, false) => taken.erase name

/-- The event can happen while these names are taken. -/
def Fits (taken : Finset String) (e : Event) : Prop :=
  match e.mark? with
  | none => True
  | some (name, up) => up = true ↔ name ∉ taken

end Event

/-- What a collection tells of is not about the names of collections. -/
theorem Collection.mark?_of_mem_events {c : Collection} {x : Collection.Call} {e : Event}
    (he : e ∈ (c.perform x).2.events) : e.mark? = none := by
  obtain ⟨now, op⟩ := x
  by_cases hres : op.isResolution = true
  · rcases c.perform_resolution_eq (x := ⟨now, op⟩) hres with ⟨message, hfailed⟩ | hscan
    · rw [hfailed] at he
      cases he
    · rw [hscan] at he
      rcases List.mem_append.1 he with hnotice | herased
      · cases op with
        | resolveMatching order pattern ask out =>
          rw [Operation.notices] at hnotice
          split at hnotice
          · cases hnotice
          · rw [List.mem_singleton.1 hnotice]
            rfl
        | _ => cases hnotice
      · obtain ⟨k, -, rfl⟩ := List.mem_map.1 herased
        rfl
  · cases op with
    | purge =>
      have he : e ∈ (c.purge now).2.2 := he
      unfold purge at he
      dsimp only at he
      split at he
      · rw [List.mem_singleton.1 he]
        rfl
      · cases he
    | resolveKey => exact absurd rfl hres
    | resolveAll => exact absurd rfl hres
    | resolveMatching => exact absurd rfl hres
    | _ => cases he

namespace Registry

variable {r : Registry} {q : Request} {name : String} {log : List Event}

/-! ## Reading a log -/

/-- The names that are taken according to a log. -/
def replay (log : List Event) : Finset String := log.foldl Event.names ∅

/-- Each event of the log can happen after those in front of it: a name that is taken up was free,
and one that is let go was taken. -/
def Coherent (log : List Event) : Prop :=
  ∀ before e after, log = before ++ e :: after → e.Fits (replay before)

/-- What a log tells of one name: each time whether it was taken up or let go. -/
def fate (name : String) (log : List Event) : List Bool :=
  log.filterMap fun e => e.mark?.bind fun m => if m.1 = name then some m.2 else none

theorem replay_append_singleton (log : List Event) (e : Event) :
    replay (log ++ [e]) = e.names (replay log) := by
  unfold replay
  rw [List.foldl_append, List.foldl_cons, List.foldl_nil]

theorem coherent_nil : Coherent [] := by
  intro before e after h
  have hlen := congrArg List.length h
  simp at hlen

theorem coherent_append_singleton {e : Event} (hlog : Coherent log) (he : e.Fits (replay log)) :
    Coherent (log ++ [e]) := by
  intro before d after h
  rcases List.eq_nil_or_concat' after with rfl | ⟨after, d', rfl⟩
  · obtain ⟨rfl, hd⟩ := List.append_inj' h rfl
    obtain rfl : e = d := List.singleton_inj.1 hd
    exact he
  · rw [← List.cons_append, ← List.append_assoc] at h
    obtain ⟨h, -⟩ := List.append_inj' h rfl
    exact hlog before d after h

theorem Coherent.of_append {log' : List Event} (hlog : Coherent (log ++ log')) : Coherent log := by
  intro before d after h
  exact hlog before d (after ++ log') (by rw [h, List.append_assoc, List.cons_append])

theorem fate_append (name : String) (log log' : List Event) :
    fate name (log ++ log') = fate name log ++ fate name log' :=
  List.filterMap_append

/-- An event is about a name, or it changes neither what is taken of that name nor its fate. -/
theorem mark_cases (e : Event) (name : String) :
    (∃ up, e.mark? = some (name, up) ∧ fate name [e] = [up]) ∨
      (fate name [e] = [] ∧ ∀ taken, name ∈ e.names taken ↔ name ∈ taken) := by
  unfold fate Event.names
  rw [List.filterMap_cons, List.filterMap_nil]
  cases hm : e.mark? with
  | none => exact Or.inr ⟨rfl, fun taken => Iff.rfl⟩
  | some m =>
    obtain ⟨t, up⟩ := m
    by_cases ht : t = name
    · subst ht
      exact Or.inl ⟨up, rfl, by simp⟩
    · have hne : name ≠ t := Ne.symm ht
      refine Or.inr ⟨by simp [ht], fun taken => ?_⟩
      cases up <;> simp [hne]

theorem mem_names_of_mark? {e : Event} {up : Bool} (hm : e.mark? = some (name, up))
    (taken : Finset String) : name ∈ e.names taken ↔ up = true := by
  unfold Event.names
  rw [hm]
  cases up <;> simp

/-- What is told of a name last says whether it is taken. -/
theorem getLast?_fate (name : String) (log : List Event) :
    (false :: fate name log).getLast? = some (decide (name ∈ replay log)) := by
  induction log using List.reverseRecOn with
  | nil => rfl
  | append_singleton log e ih =>
    rw [fate_append, replay_append_singleton]
    rcases mark_cases e name with ⟨up, hm, hfate⟩ | ⟨hfate, hsame⟩
    · have hlast := mem_names_of_mark? hm (replay log)
      rw [hfate, ← List.cons_append, List.getLast?_concat]
      cases up <;> simpa using hlast
    · rw [hfate, List.append_nil, ih, decide_eq_decide.2 (hsame _)]

/-- **Of each name a coherent log tells by turns** that it was taken up and that it was let go, the
former first.  The induction is on the log; a name that is told of was told of last in the other
way, since that is how the names in front of the event come out. -/
theorem Coherent.alternates (hlog : Coherent log) (name : String) :
    (false :: fate name log).IsChain (· ≠ ·) := by
  induction log using List.reverseRecOn with
  | nil => exact List.isChain_singleton _
  | append_singleton log e ih =>
    have hfits : e.Fits (replay log) := hlog log e [] rfl
    rw [fate_append, ← List.cons_append]
    rcases mark_cases e name with ⟨up, hm, hfate⟩ | ⟨hfate, -⟩
    · rw [hfate, List.isChain_append]
      refine ⟨ih hlog.of_append, List.isChain_singleton _, ?_⟩
      intro x hx y hy
      rw [getLast?_fate] at hx
      obtain rfl : decide (name ∈ replay log) = x := Option.some.inj hx
      obtain rfl : up = y := Option.some.inj hy
      rw [Event.Fits, hm] at hfits
      have hfits : up = true ↔ name ∉ replay log := hfits
      intro hsame
      rw [← hsame, decide_eq_true_iff] at hfits
      exact iff_not_self hfits
    · rw [hfate, List.append_nil]
      exact ih hlog.of_append

/-! ## What a request tells of -/

/-- **What a request does to the names, and tells of.**  All names stay, and nothing is said about
names; or one that was free is taken up, or one that was taken is let go, and that is told of. -/
theorem perform_cases (r : Registry) (hq : q ≠ .clear) :
    ((∀ e ∈ (r.perform q).2.events, e.mark? = none) ∧
      ∀ name, (r.perform q).1.registered? name = r.registered? name) ∨
    ∃ e t up, (r.perform q).2.events = [e] ∧ e.mark? = some (t, up) ∧
      (up = true ↔ r.registered? t = none) ∧ ((r.perform q).1.registered? t ≠ none ↔ up = true) ∧
      ∀ name, name ≠ t → (r.perform q).1.registered? name = r.registered? name := by
  cases q with
  | get s =>
    left
    exact ⟨fun e he => absurd he List.not_mem_nil, fun _ => rfl⟩
  | getOrCreate s =>
    show ((∀ e ∈ (r.getOrCreate s).2.2, e.mark? = none) ∧
      ∀ name, (r.getOrCreate s).1.registered? name = r.registered? name) ∨
      ∃ e t up, (r.getOrCreate s).2.2 = [e] ∧ _
    cases hs : r.get? s with
    | some h =>
      rw [getOrCreate_of_some hs]
      exact Or.inl ⟨fun e he => absurd he List.not_mem_nil, fun _ => rfl⟩
    | none =>
      right
      refine ⟨.collectionCreated (Text.upper s) r.config.initialCapacity, Text.upper s, true,
        by rw [getOrCreate_of_none hs]; rfl, rfl, iff_of_true rfl hs, ?_, ?_⟩
      · rw [registered?_perform]
        have hwants : (Request.getOrCreate s).Wants (Text.upper s) := rfl
        rw [if_neg (by exact id), if_pos ⟨hwants, hs⟩]
        simp
      · intro name hname
        rw [registered?_perform, if_neg (by exact id), if_neg]
        rintro ⟨hwants, -⟩
        have hwants : Text.upper s = name := hwants
        exact hname hwants.symm
  | remove s =>
    show ((∀ e ∈ (r.remove s).2.2, e.mark? = none) ∧
      ∀ name, (r.remove s).1.registered? name = r.registered? name) ∨
      ∃ e t up, (r.remove s).2.2 = [e] ∧ _
    cases hs : r.get? s with
    | none =>
      rw [remove_of_none hs]
      exact Or.inl ⟨fun e he => absurd he List.not_mem_nil, fun _ => rfl⟩
    | some h =>
      have hs' : r.registered? (Text.upper s) = some h := hs
      right
      refine ⟨.collectionRemoved (Text.upper s), Text.upper s, false,
        by rw [remove_of_some hs], rfl, by simp [hs'], ?_, ?_⟩
      · show (r.remove s).1.registered? (Text.upper s) ≠ none ↔ _
        rw [registered?_remove]
        simp
      · intro name hname
        show (r.remove s).1.registered? name = _
        rw [registered?_remove, if_neg (Ne.symm hname)]
  | clear => exact absurd rfl hq
  | use h x =>
    left
    refine ⟨fun e he => ?_, fun name => ?_⟩
    · have he : e ∈ (r.call h x).2.events := he
      cases hc : r.collection? h with
      | none =>
        rw [call_of_none hc] at he
        cases he
      | some c =>
        rw [call_of_some hc] at he
        exact Collection.mark?_of_mem_events he
    · show (r.call h x).1.register.lookup name = _
      rw [register_call]
      rfl

/-! ## The log of a run -/

/-- The log since the registry was made or last cleared, behind what has been told before the run.
-/
def recent (r : Registry) (told : List Event) : List Request → List Event
  | [] => told
  | .clear :: qs => r.clear.recent [] qs
  | q :: qs => (r.perform q).1.recent (told ++ (r.perform q).2.events) qs

theorem recent_cons_clear (r : Registry) (told : List Event) (qs : List Request) :
    r.recent told (.clear :: qs) = (r.perform .clear).1.recent [] qs := rfl

theorem recent_cons (r : Registry) (told : List Event) (hq : q ≠ .clear) (qs : List Request) :
    r.recent told (q :: qs) = (r.perform q).1.recent (told ++ (r.perform q).2.events) qs := by
  cases q with
  | clear => exact absurd rfl hq
  | _ => rfl

/-- A log that says which names the registry has. -/
structure Tells (r : Registry) (log : List Event) : Prop where
  mem_iff : ∀ name, name ∈ replay log ↔ r.registered? name ≠ none
  coherent : Coherent log

theorem tells_of_forall_none (hr : ∀ name, r.registered? name = none) : r.Tells [] :=
  ⟨fun name => by simp [replay, hr name], coherent_nil⟩

/-- Events that are not about names may be in the log. -/
theorem Tells.append_unmarked {s : Registry} {es : List Event} (hlog : r.Tells log)
    (hes : ∀ e ∈ es, e.mark? = none) (hs : ∀ name, s.registered? name = r.registered? name) :
    s.Tells (log ++ es) := by
  induction es using List.reverseRecOn with
  | nil =>
    rw [List.append_nil]
    exact ⟨fun name => by rw [hs, hlog.mem_iff], hlog.coherent⟩
  | append_singleton es e ih =>
    have he : e.mark? = none := hes e (by simp)
    have ih := ih fun d hd => hes d (List.mem_append_left _ hd)
    rw [← List.append_assoc]
    refine ⟨fun name => ?_, coherent_append_singleton ih.coherent ?_⟩
    · rw [replay_append_singleton, Event.names, he, ih.mem_iff]
    · rw [Event.Fits, he]
      trivial

/-- **One request more.** -/
theorem Tells.perform (hlog : r.Tells log) (hq : q ≠ .clear) :
    (r.perform q).1.Tells (log ++ (r.perform q).2.events) := by
  rcases perform_cases r hq with ⟨hes, hsame⟩ | ⟨e, t, up, hes, hm, hup, hafter, hsame⟩
  · exact hlog.append_unmarked hes hsame
  · rw [hes]
    refine ⟨fun name => ?_, coherent_append_singleton hlog.coherent ?_⟩
    · rw [replay_append_singleton, Event.names, hm]
      by_cases ht : name = t
      · subst ht
        cases up <;> simp_all
      · rw [hsame name ht, ← hlog.mem_iff]
        cases up <;> simp [ht]
    · rw [Event.Fits, hm]
      show up = true ↔ t ∉ replay log
      rw [hlog.mem_iff, hup, not_not]

/-- **The log of a run.**  The induction is on the run; a request that clears the registry begins
the log anew, with no names. -/
theorem Tells.run (hlog : r.Tells log) (qs : List Request) :
    (r.run qs).Tells (r.recent log qs) := by
  induction qs generalizing r log with
  | nil => exact hlog
  | cons q qs ih =>
    by_cases hq : q = .clear
    · subst hq
      rw [recent_cons_clear]
      exact ih (tells_of_forall_none fun name => rfl)
    · rw [recent_cons r log hq]
      exact ih (hlog.perform hq)

theorem recent_of_forall_ne_clear {qs : List Request} (hqs : ∀ q ∈ qs, q ≠ .clear)
    (r : Registry) (told : List Event) :
    r.recent told qs = told ++ (r.responses qs).flatMap (·.events) := by
  induction qs generalizing r told with
  | nil => exact (List.append_nil told).symm
  | cons q qs ih =>
    rw [recent_cons r told (hqs q List.mem_cons_self),
      ih fun p hp => hqs p (List.mem_cons_of_mem _ hp)]
    simp

/-! ## Construction -/

/-- The ways to make a registry. -/
inductive Origin where
  | empty (config : Config)
  | standard
  | withDefaults (config : Config)

/-- Make a registry; the events tell of the collections it begins with. -/
def Origin.make : Origin → Registry × List Event
  | empty config => (.empty config, [])
  | standard => (default, [])
  | withDefaults config => Registry.withDefaults config

/-- The names that are taken up when collections are asked for one after the other: those that are
free, each of them once. -/
theorem snd_getOrCreateEach (r : Registry) (names : List String) :
    (r.getOrCreateEach names).2 =
      ((names.map Text.upper).filter fun name => (r.registered? name).isNone).eraseDups.map
        fun name => .collectionCreated name r.config.initialCapacity := by
  induction names generalizing r with
  | nil => rfl
  | cons s names ih =>
    show (r.getOrCreate s).2.2 ++ ((r.getOrCreate s).1.getOrCreateEach names).2 = _
    rw [List.map_cons]
    cases hs : r.get? s with
    | some h =>
      have hs' : r.registered? (Text.upper s) = some h := hs
      rw [getOrCreate_of_some hs, ih, List.filter_cons_of_neg (by simp [hs'])]
      rfl
    | none =>
      have hs' : r.registered? (Text.upper s) = none := hs
      rw [getOrCreate_of_none hs, ih, List.filter_cons_of_pos (by simp [hs']), List.eraseDups_cons,
        List.filter_filter, List.map_cons]
      have hfree : ∀ name, ((r.create (Text.upper s)).1.registered? name).isNone =
          ((!name == Text.upper s) && (r.registered? name).isNone) := by
        intro name
        rw [registered?_create]
        by_cases hname : Text.upper s = name
        · simp [← hname, hs']
        · have hname' : name ≠ Text.upper s := Ne.symm hname
          simp [hname, hname']
      simp only [hfree]
      rfl

/-- The events of making a registry with its first collections: one for each name, in upper case, at
the first place where it occurs. -/
theorem snd_withDefaults (config : Config) :
    (withDefaults config).2 = (config.collections.map Text.upper).eraseDups.map
      fun name => .collectionCreated name config.initialCapacity := by
  have hfree : ∀ name ∈ config.collections.map Text.upper,
      ((Registry.empty config).registered? name).isNone = true := fun _ _ => rfl
  unfold withDefaults
  rw [snd_getOrCreateEach, List.filter_eq_self.2 hfree]
  rfl

theorem Origin.tells (o : Origin) : o.make.1.Tells o.make.2 := by
  have hempty : ∀ config, (Registry.empty config).Tells [] :=
    fun config => tells_of_forall_none fun _ => rfl
  cases o with
  | empty config => exact hempty config
  | standard => exact hempty default
  | withDefaults config =>
    have hmade : ∀ q ∈ config.collections.map Request.getOrCreate, q ≠ .clear := by
      intro q hq
      obtain ⟨s, -, rfl⟩ := List.mem_map.1 hq
      exact Request.noConfusion
    have hrun := (hempty config).run (config.collections.map .getOrCreate)
    rw [recent_of_forall_ne_clear hmade] at hrun
    show (Registry.withDefaults config).1.Tells (Registry.withDefaults config).2
    unfold Registry.withDefaults
    rw [getOrCreateEach_eq]
    exact hrun

/-- **The log replays to the names.**  However the registry was made, and whatever has been asked of
it: take the log since then, or since the registry was last cleared.  Adding each name that is told
to be made, and deleting each that is told to be removed, gives just the names that the registry
has.  A name is told to be made only when it is free according to the log in front of that, and to
be removed only when it is taken, so that of each name the log tells by turns, beginning with its
making.  And a registry that begins with the collections of its configuration tells of one for each
of the configured names, in upper case, in the order in which these occur first. -/
theorem log_replays_to_names (o : Origin) (qs : List Request) :
    replay (o.make.1.recent o.make.2 qs) = (o.make.1.run qs).names.toFinset ∧
    Coherent (o.make.1.recent o.make.2 qs) ∧
    (∀ name, (false :: fate name (o.make.1.recent o.make.2 qs)).IsChain (· ≠ ·)) ∧
    ∀ config, (Origin.withDefaults config).make.2 =
      (config.collections.map Text.upper).eraseDups.map
        fun name => .collectionCreated name config.initialCapacity := by
  have htells := o.tells.run qs
  refine ⟨?_, htells.coherent, htells.coherent.alternates, snd_withDefaults⟩
  ext name
  rw [htells.mem_iff, List.mem_toFinset, mem_names_iff]

/-- The second of two removals finds nothing and is not told of, and what was told before the
registry was cleared does not count any more. -/
example :
    (empty .standard).recent []
        [.getOrCreate "ip", .clear, .getOrCreate "Ip", .remove "IP", .remove "ip", .getOrCreate "iP"] =
      [.collectionCreated "IP" 1000, .collectionRemoved "IP", .collectionCreated "IP" 1000] := by
  decide

end Registry
end VarStore
