import Mathlib
import VarStore.Proofs.Collection.Scan

/-!
# What equal patterns and equal exclusions have in common

Patterns are compared by their texts.  A text does not say everything about a pattern: whether case is
ignored is settled when the pattern is compiled, and is not kept.  So there are equal patterns of which one
finds a key that the other one does not find, and with them equal lists of exclusions that let different
keys pass (`equal_patterns_may_differ`).  Nothing else is lost.  The text and the setting determine the
pattern, so equal patterns that were compiled with the same setting are the same pattern.

To say this of lists one has to know how their entries came about, which the entries do not tell either.
So a list is followed from its first entry on (`Built`): it may be made of entries that are there, and an
entry may be added by its name, by a pattern, or as it is.  Each entry has an origin, which is a name or a
text with a setting, and however the list was built its entries are made of their origins, one by one
(`Built.makes`).  Two lists are equal exactly if their origins are but for the settings
(`Built.beq_iff`).  If the settings are equal too, then the origins are, and so are the entries.

* `Origin`, `Makes`, `Built`: where the entries of a list come from.
* `equal_patterns_may_differ`: what is lost without the settings.
* `equal_exclusions_of_equal_settings_agree`: what equality is worth.
-/

namespace VarStore

namespace KeyPattern

variable {text : String} {ignoreCase : Bool} {p : KeyPattern}

/-- A pattern keeps the text from which it was compiled. -/
theorem source_of_compile (hp : compile text ignoreCase = .ok p) : p.source = text := by
  rw [compile] at hp
  cases hread : Regex.read ignoreCase text with
  | ok regex =>
    rw [hread] at hp
    rw [← Except.ok.inj hp]
  | error fault =>
    rw [hread] at hp
    cases hp

/-- Whatever the settings were, patterns are equal exactly if their texts are. -/
theorem beq_iff_of_compile {text' : String} {ignoreCase' : Bool} {q : KeyPattern}
    (hp : compile text ignoreCase = .ok p) (hq : compile text' ignoreCase' = .ok q) :
    (p == q) = true ↔ text = text' := by
  rw [beq_iff, source_of_compile hp, source_of_compile hq]

end KeyPattern

/-! ## Where entries come from -/

namespace Exclusion

/-- What an exclusion is made of. -/
inductive Origin where
  | name (key : String)
  | pattern (text : String) (ignoreCase : Bool)
  deriving DecidableEq

namespace Origin

/-- Whether case is ignored, of a pattern. -/
def setting : Origin → Option Bool
  | name _ => none
  | pattern _ ignoreCase => some ignoreCase

/-- The origin as far as a comparison sees it. -/
def blind : Origin → Origin
  | name key => name key
  | pattern text _ => pattern text true

/-- A comparison misses the setting and nothing else. -/
theorem eq_of_blind_eq {o o' : Origin} (hblind : o.blind = o'.blind)
    (hsetting : o.setting = o'.setting) : o = o' := by
  cases o <;> cases o' <;> simp_all [blind, setting]

end Origin

/-- The exclusion is made of this name, or compiled from this text with this setting. -/
inductive Makes : Origin → Exclusion → Prop
  | name (key : String) : Makes (.name key) (.named key)
  | pattern {text : String} {ignoreCase : Bool} {p : KeyPattern} :
    KeyPattern.compile text ignoreCase = .ok p → Makes (.pattern text ignoreCase) (.matching p)

namespace Makes

variable {o o' : Origin} {e e' : Exclusion}

/-- An origin makes one exclusion. -/
theorem unique (h : Makes o e) (h' : Makes o e') : e = e' := by
  cases h with
  | name key =>
    cases h'
    rfl
  | pattern hp =>
    cases h' with
    | pattern hq => rw [Except.ok.inj (hp.symm.trans hq)]

/-- Exclusions are equal exactly if their origins look equal. -/
theorem beq_iff (h : Makes o e) (h' : Makes o' e') : (e == e') = true ↔ o.blind = o'.blind := by
  cases h with
  | name key =>
    cases h' with
    | name key' =>
      show (key == key') = true ↔ _
      rw [beq_iff_eq]
      simp [Origin.blind]
    | pattern hq => exact ⟨nofun, nofun⟩
  | @pattern _ _ p hp =>
    cases h' with
    | name key' => exact ⟨nofun, nofun⟩
    | @pattern _ _ q hq =>
      show (p == q) = true ↔ _
      rw [KeyPattern.beq_iff_of_compile hp hq]
      simp [Origin.blind]

end Makes

end Exclusion

namespace Exclusions

open Exclusion (Origin Makes)

/-- The list is built of entries with these origins: collected from entries that are there, or with one
more entry, which is added by its name, by a pattern in which case is ignored, or as it is. -/
inductive Built : List Origin → Exclusions → Prop
  | collect {os : List Origin} {es : List Exclusion} : List.Forall₂ Makes os es → Built os ⟨es⟩
  | excludeKey {os : List Origin} {x : Exclusions} (key : String) :
    Built os x → Built (os ++ [.name key]) (x.excludeKey key)
  | excludePattern {os : List Origin} {x y : Exclusions} {text : String} :
    Built os x → x.excludePattern text = .ok y → Built (os ++ [.pattern text true]) y
  | push {os : List Origin} {x : Exclusions} {o : Origin} {e : Exclusion} :
    Built os x → Makes o e → Built (os ++ [o]) (x.push e)

variable {os os' : List Origin} {x y : Exclusions}

/-- A pattern that is added is compiled so that it ignores case. -/
theorem exists_of_excludePattern {text : String} (h : x.excludePattern text = .ok y) :
    ∃ p, KeyPattern.compile text true = .ok p ∧ y = x.push (.matching p) := by
  rw [excludePattern, Exclusion.ofPattern] at h
  cases hp : KeyPattern.compile text true with
  | error e =>
    rw [hp] at h
    cases h
  | ok p =>
    rw [hp] at h
    exact ⟨p, rfl, (Except.ok.inj h).symm⟩

theorem forall₂_concat {o : Origin} {es : List Exclusion} {e : Exclusion}
    (h : List.Forall₂ Makes os es) (he : Makes o e) :
    List.Forall₂ Makes (os ++ [o]) (es ++ [e]) :=
  List.rel_append h (.cons he .nil)

/-- **However a list is built, its entries are made of their origins**, one by one. -/
theorem Built.makes (h : Built os x) : List.Forall₂ Makes os x.entries := by
  induction h with
  | collect hes => exact hes
  | excludeKey key _ ih => exact forall₂_concat ih (.name key)
  | excludePattern _ hy ih =>
    obtain ⟨p, hp, rfl⟩ := exists_of_excludePattern hy
    exact forall₂_concat ih (.pattern hp)
  | push _ he ih => exact forall₂_concat ih he

/-- Lists whose entries are made of origins are equal exactly if the origins look equal. -/
theorem beq_iff_of_makes {es es' : List Exclusion} (h : List.Forall₂ Makes os es)
    (h' : List.Forall₂ Makes os' es') :
    (es == es') = true ↔ os.map Origin.blind = os'.map Origin.blind := by
  induction h generalizing os' es' with
  | nil =>
    cases h' with
    | nil => simp
    | cons => simp
  | cons he _ ih =>
    cases h' with
    | nil => simp
    | cons he' hes' =>
      rw [List.cons_beq_cons, Bool.and_eq_true, he.beq_iff he', ih hes', List.map_cons,
        List.map_cons, List.cons.injEq]

/-- **Equal lists have equal origins but for the settings**, and no others do. -/
theorem Built.beq_iff (hx : Built os x) (hy : Built os' y) :
    (x == y) = true ↔ os.map Origin.blind = os'.map Origin.blind :=
  beq_iff_of_makes hx.makes hy.makes

/-- Origins with the same settings that look equal are equal. -/
theorem eq_of_map_blind_eq (hblind : os.map Origin.blind = os'.map Origin.blind)
    (hsetting : os.map Origin.setting = os'.map Origin.setting) : os = os' := by
  induction os generalizing os' with
  | nil => exact (List.map_eq_nil_iff.1 hblind.symm).symm
  | cons o os ih =>
    cases os' with
    | nil => cases hblind
    | cons o' os' =>
      obtain ⟨ho, hos⟩ := List.cons.inj hblind
      obtain ⟨hs, hss⟩ := List.cons.inj hsetting
      rw [Origin.eq_of_blind_eq ho hs, ih hos hss]

/-- The origins make one list. -/
theorem entries_unique {es es' : List Exclusion} (h : List.Forall₂ Makes os es)
    (h' : List.Forall₂ Makes os es') : es = es' := by
  induction h generalizing es' with
  | nil =>
    cases h'
    rfl
  | cons he _ ih =>
    cases h' with
    | cons he' hes' => rw [he.unique he', ih hes']

/-- **Equal lists whose patterns have the same settings are the same list.** -/
theorem Built.eq_of_beq (hx : Built os x) (hy : Built os' y) (hxy : (x == y) = true)
    (hsetting : os.map Origin.setting = os'.map Origin.setting) : x = y := by
  obtain rfl := eq_of_map_blind_eq ((hx.beq_iff hy).1 hxy) hsetting
  obtain ⟨es⟩ := x
  obtain ⟨es'⟩ := y
  exact congrArg Exclusions.mk (entries_unique hx.makes hy.makes)

/-! ## What equality is worth -/

/-- The text that is compiled with both settings: one pattern finds the capital letter and the other one
does not. -/
theorem exists_compile_a : ∃ p q,
    KeyPattern.compile "a" true = .ok p ∧ KeyPattern.compile "a" false = .ok q ∧
      p.search "A" = true ∧ q.search "A" = false := by
  have hfound : (KeyPattern.compile "a" true).toOption.map (·.search "A") = some true := by cbv
  have hmissed : (KeyPattern.compile "a" false).toOption.map (·.search "A") = some false := by cbv
  obtain ⟨p, hp, hpA⟩ := KeyPattern.exists_of_search_eq hfound
  obtain ⟨q, hq, hqA⟩ := KeyPattern.exists_of_search_eq hmissed
  exact ⟨p, q, hp, hq, hpA, hqA⟩

/-- A list of one pattern. -/
theorem built_singleton {text : String} {ignoreCase : Bool} {p : KeyPattern}
    (hp : KeyPattern.compile text ignoreCase = .ok p) :
    Built [.pattern text ignoreCase] ⟨[.matching p]⟩ :=
  .collect (.cons (.pattern hp) .nil)

/-- **Equal patterns may differ.**  The letter `a` is compiled once so that case is ignored and once so that
it is not.  The two patterns are equal, but one of them finds the key `A` and the other one does not.  Two
lists of exclusions with one of them each are equal, but one omits the key and the other one does not, and
a resolution of a collection with this key returns nothing with the one and its value with the other. -/
theorem equal_patterns_may_differ :
    ∃ p q, KeyPattern.compile "a" true = .ok p ∧ KeyPattern.compile "a" false = .ok q ∧
      (p == q) = true ∧ p.search "A" = true ∧ q.search "A" = false ∧
      ∃ x y, Built [.pattern "a" true] x ∧ Built [.pattern "a" false] y ∧ (x == y) = true ∧
        x.omits "A" = true ∧ y.omits "A" = false ∧
        let c := (Collection.named "vars").store "A" "1"
        c.resolveAll .zero ["A"] "" x.filter [] = .ok ⟨c, [], []⟩ ∧
        c.resolveAll .zero ["A"] "" y.filter [] = .ok ⟨c, [⟨"vars", "A", "1"⟩], []⟩ := by
  obtain ⟨p, q, hp, hq, hpA, hqA⟩ := exists_compile_a
  have hx : Exclusions.omits ⟨[.matching p]⟩ "A" = true := by
    simp [omits, Exclusion.covers, hpA]
  have hy : Exclusions.omits ⟨[.matching q]⟩ "A" = false := by
    simp [omits, Exclusion.covers, hqA]
  refine ⟨p, q, hp, hq, (KeyPattern.beq_iff_of_compile hp hq).2 rfl, hpA, hqA,
    ⟨[.matching p]⟩, ⟨[.matching q]⟩, built_singleton hp, built_singleton hq,
    ((built_singleton hp).beq_iff (built_singleton hq)).2 rfl, hx, hy, ?_, ?_⟩
  · rw [Collection.resolveAll, if_pos rfl]
    exact Collection.resolveOrder_singleton_of_omit (by rw [filter, Filter.omitting_apply, hx]; rfl)
      _ _ _
  · rw [Collection.resolveAll, if_pos rfl,
      Collection.resolveOrder_singleton_of_keep (by rw [filter, Filter.omitting_apply, hy]; rfl)]
    rfl

/-- **What equality is worth.**  Two patterns that were compiled with the same setting and are equal find
the same keys.  Two lists of exclusions are equal exactly if they were built of the same names and texts, in
the same order, whatever the settings and however they were built.  If the settings are the same as well,
then equal lists omit the same keys, and a resolution with the one comes to what it comes to with the
other. -/
theorem equal_exclusions_of_equal_settings_agree :
    (∀ (text text' : String) (ignoreCase : Bool) (p q : KeyPattern),
      KeyPattern.compile text ignoreCase = .ok p → KeyPattern.compile text' ignoreCase = .ok q →
      (p == q) = true → ∀ key, p.search key = q.search key) ∧
    ∀ (os os' : List Origin) (x y : Exclusions), Built os x → Built os' y →
      ((x == y) = true ↔ os.map Origin.blind = os'.map Origin.blind) ∧
      ((x == y) = true → os.map Origin.setting = os'.map Origin.setting →
        (∀ key, x.omits key = y.omits key) ∧
        ∀ (c : Collection) (now : Instant) (order : List String) (out : List Record),
          (∀ k, c.resolveAll now order k x.filter out = c.resolveAll now order k y.filter out) ∧
          ∀ pattern, c.resolveMatching now order pattern x.filter out =
            c.resolveMatching now order pattern y.filter out) := by
  refine ⟨fun text text' ignoreCase p q hp hq hpq key => ?_, fun os os' x y hx hy => ?_⟩
  · obtain rfl := (KeyPattern.beq_iff_of_compile hp hq).1 hpq
    rw [Except.ok.inj (hp.symm.trans hq)]
  · refine ⟨hx.beq_iff hy, fun hxy hsetting => ?_⟩
    obtain rfl := hx.eq_of_beq hy hxy hsetting
    exact ⟨fun _ => rfl, fun _ _ _ _ => ⟨fun _ => rfl, fun _ => rfl⟩⟩

/-- A name and a pattern, once collected from entries that are there and once added one by one: the two
lists are equal and both omit the capital letter. -/
theorem collected_like_added :
    ∃ p x y, KeyPattern.compile "a" true = .ok p ∧
      Built [.name "b", .pattern "a" true] x ∧ Built [.name "b", .pattern "a" true] y ∧
      x = ⟨[.named "b", .matching p]⟩ ∧ (empty.excludeKey "b").excludePattern "a" = .ok y ∧
      (x == y) = true ∧ x.omits "A" = y.omits "A" ∧ y.omits "A" = true := by
  obtain ⟨p, -, hp, -, hpA, -⟩ := exists_compile_a
  have hy : (empty.excludeKey "b").excludePattern "a" =
      .ok ((empty.excludeKey "b").push (.matching p)) := by
    rw [excludePattern, Exclusion.ofPattern, hp]
    rfl
  have hbuiltx : Built [.name "b", .pattern "a" true] ⟨[.named "b", .matching p]⟩ :=
    .collect (.cons (.name "b") (.cons (.pattern hp) .nil))
  have hbuilty := Built.excludePattern (.excludeKey "b" (.collect .nil)) hy
  obtain ⟨hequal, hsame⟩ := equal_exclusions_of_equal_settings_agree.2 _ _ _ _ hbuiltx hbuilty
  obtain ⟨homits, -⟩ := hsame (hequal.2 rfl) rfl
  refine ⟨p, _, _, hp, hbuiltx, hbuilty, rfl, hy, hequal.2 rfl, homits "A", ?_⟩
  simp [omits, push, excludeKey, empty, Exclusion.covers, hpA]

end Exclusions
end VarStore
