import VarStore.Proofs.Collection.Call
import Mathlib.Data.List.Nodup

/-!
# Buckets are returned whole or not at all

A scan returns what is in front of the first expired value of a bucket, so one would think that it
may return part of a bucket.  It never does.  An expiry is given to all the values that are under a
key at the time, values that come in later have none, and a value that is overwritten keeps the one
it has.  So a bucket consists of values that expire at one and the same instant, followed by values
that do not expire (`Blocks`), and its expired values are all in front.

The invariant does not need the clock to go forward: it holds of a bucket whatever the readings were
at which its values were stored and given an expiry.

* `Reachable.blocks`: the invariant.
* `buckets_are_all_or_nothing`: a resolution returns all the values of a bucket, or it returns none
  and erases the first one.
-/

namespace VarStore
namespace Collection

variable {c : Collection} {now : Instant} {k : String} {b : List Entry}

/-! ## Two blocks -/

/-- Values that expire at one instant, and behind them values that do not expire. -/
def Blocks (b : List Entry) : Prop :=
  ∃ (t : Instant) (aging lasting : List Entry), b = aging ++ lasting ∧
    (∀ e ∈ aging, e.expiry = some t) ∧ ∀ e ∈ lasting, e.expiry = none

theorem Blocks.of_lasting (h : ∀ e ∈ b, e.expiry = none) : Blocks b :=
  ⟨default, [], b, rfl, fun _ he => absurd he List.not_mem_nil, h⟩

theorem Blocks.of_aging {t : Instant} (h : ∀ e ∈ b, e.expiry = some t) : Blocks b :=
  ⟨t, b, [], (List.append_nil b).symm, h, fun _ he => absurd he List.not_mem_nil⟩

theorem blocks_nil : Blocks [] :=
  .of_lasting fun _ he => absurd he List.not_mem_nil

/-- Taking values out of the bucket keeps the blocks. -/
theorem Blocks.sublist {a : List Entry} (h : Blocks b) (hab : a.Sublist b) : Blocks a := by
  obtain ⟨t, aging, lasting, rfl, haging, hlasting⟩ := h
  obtain ⟨a₁, a₂, rfl, h₁, h₂⟩ := List.sublist_append_iff.1 hab
  exact ⟨t, a₁, a₂, rfl, fun e he => haging e (h₁.subset he), fun e he => hlasting e (h₂.subset he)⟩

/-- A value that comes in joins the values that do not expire. -/
theorem Blocks.append_fresh (h : Blocks b) (value : String) : Blocks (b ++ [.fresh value]) := by
  obtain ⟨t, aging, lasting, rfl, haging, hlasting⟩ := h
  refine ⟨t, aging, lasting ++ [.fresh value], List.append_assoc .., haging, fun e he => ?_⟩
  rcases List.mem_append.1 he with he | he
  · exact hlasting e he
  · rw [List.mem_singleton.1 he, Entry.expiry_fresh]

/-- The blocks are a matter of the expiries alone. -/
theorem Blocks.of_map_expiry {a : List Entry} (h : Blocks b)
    (hab : a.map (·.expiry) = b.map (·.expiry)) : Blocks a := by
  obtain ⟨t, aging, lasting, rfl, haging, hlasting⟩ := h
  rw [List.map_append] at hab
  obtain ⟨a₁, a₂, rfl, h₁, h₂⟩ := List.map_eq_append_iff.1 hab
  refine ⟨t, a₁, a₂, rfl, fun e he => ?_, fun e he => ?_⟩
  · obtain ⟨e', he', heq⟩ := List.mem_map.1 (h₁ ▸ List.mem_map_of_mem he)
    rw [← haging e' he', heq]
  · obtain ⟨e', he', heq⟩ := List.mem_map.1 (h₂ ▸ List.mem_map_of_mem he)
    rw [← hlasting e' he', heq]

theorem map_expiry_overwriteFirst (value : String) (b : List Entry) :
    (overwriteFirst value b).map (·.expiry) = b.map (·.expiry) := by
  cases b <;> rfl

/-- An expiry for all the values leaves one block. -/
theorem blocks_map_expiry (b : List Entry) (expiry : Option Instant) :
    Blocks (b.map fun e => { e with expiry }) := by
  have hall : ∀ e ∈ b.map (fun e : Entry => { e with expiry }), e.expiry = expiry := by
    intro e he
    obtain ⟨e', -, rfl⟩ := List.mem_map.1 he
    rfl
  cases expiry with
  | none => exact .of_lasting hall
  | some t => exact .of_aging hall

theorem Blocks.ite {p : Prop} [Decidable p] {a : List Entry} (ha : Blocks a) (hb : Blocks b) :
    Blocks (if p then a else b) := by
  split
  · exact ha
  · exact hb

/-- Every edit keeps the blocks. -/
theorem Blocks.onBucket (h : Blocks b) (e : Edit) (i : String) : Blocks (e.onBucket i b) := by
  cases e with
  | nothing => exact h
  | insert k value => exact .ite (h.append_fresh value) h
  | overwrite k value => exact .ite (h.of_map_expiry (map_expiry_overwriteFirst value b)) h
  | rearm k expiry => exact .ite (blocks_map_expiry b expiry) h
  | remove p => exact .ite (h.sublist (List.eraseIdx_sublist b p.index)) h
  | drop k => exact .ite blocks_nil h
  | sweep now => exact h.sublist List.filter_sublist
  | clear => exact blocks_nil

/-- **Every bucket consists of two blocks.** -/
theorem Reachable.blocks (h : Reachable c) (k : String) : Blocks (c.bucket k) := by
  induction h with
  | named name => exact blocks_nil
  | configured name config => exact blocks_nil
  | perform h x ih =>
    rw [fst_perform, bucket_apply h.wellFormed]
    exact ih.onBucket _ k

/-- Expired values are in front of the others, at any reading of the clock. -/
theorem Blocks.exists_expired_append (h : Blocks b) (now : Instant) :
    ∃ expired live, b = expired ++ live ∧ (∀ e ∈ expired, e.isExpiredAt now = true) ∧
      ∀ e ∈ live, e.isExpiredAt now = false := by
  obtain ⟨t, aging, lasting, rfl, haging, hlasting⟩ := h
  have hlive : ∀ e ∈ lasting, e.isExpiredAt now = false := by
    intro e he
    rw [Entry.isExpiredAt, hlasting e he]
  by_cases ht : t ≤ now
  · refine ⟨aging, lasting, rfl, fun e he => ?_, hlive⟩
    rw [Entry.isExpiredAt, haging e he]
    exact decide_eq_true ht
  · refine ⟨[], aging ++ lasting, rfl, fun e he => absurd he List.not_mem_nil, fun e he => ?_⟩
    rcases List.mem_append.1 he with he | he
    · rw [Entry.isExpiredAt, haging e he]
      exact decide_eq_false ht
    · exact hlive e he

/-- If some value is expired, the first one is. -/
theorem Blocks.exists_cons_of_hasExpired (h : Blocks b) (hexp : hasExpired now b = true) :
    ∃ e tail, b = e :: tail ∧ e.isExpiredAt now = true := by
  obtain ⟨expired, live, rfl, hexpired, hlive⟩ := h.exists_expired_append now
  cases expired with
  | nil =>
    rw [List.nil_append, hasExpired_eq_false_iff.2 hlive] at hexp
    cases hexp
  | cons e expired => exact ⟨e, expired ++ live, rfl, hexpired e List.mem_cons_self⟩

/-! ## Scans -/

/-- What a scan of `keys` finds and leaves when buckets are returned whole or not at all.  The scan
goes through keys without expired values and returns all that is under them.  It comes to an end of
the keys, or to a bucket whose first value is expired; that value is erased and nothing of the
bucket is returned.  So the records of a key are either none or all of its values. -/
structure AllOrNothing (c : Collection) (now : Instant) (keys : List String) (found : List Record)
    (d : Collection) : Prop where
  scan : ∃ whole rest, keys = whole ++ rest ∧
    (∀ k ∈ whole, hasExpired now (c.bucket k) = false) ∧ found = whole.flatMap c.recordsUnder ∧
    (rest = [] ∧ d = c ∨ ∃ k post e tail, rest = k :: post ∧ c.bucket k = e :: tail ∧
      e.isExpiredAt now = true ∧ d = c.setBucket k tail)
  records : ∀ k, found.filter (·.key = k) = [] ∨ found.filter (·.key = k) = c.recordsUnder k

/-- Where a scan stops: at the end of the keys or at the first key with an expired value. -/
theorem exists_whole_append (c : Collection) (now : Instant) (keys : List String) :
    ∃ whole rest, keys = whole ++ rest ∧
      (∀ k ∈ whole, hasExpired now (c.bucket k) = false) ∧
      (rest = [] ∧ c.stop? now keys = none ∧ c.read now keys = whole.flatMap c.recordsUnder ∨
        ∃ k post, rest = k :: post ∧ c.stop? now keys = some k ∧ c.read now keys =
          whole.flatMap c.recordsUnder ++ liveRecords c.name now k (c.bucket k)) := by
  induction keys with
  | nil => exact ⟨[], [], rfl, fun _ hk => absurd hk List.not_mem_nil, Or.inl ⟨rfl, rfl, rfl⟩⟩
  | cons k keys ih =>
    cases hk : hasExpired now (c.bucket k) with
    | true =>
      refine ⟨[], k :: keys, rfl, fun _ hk => absurd hk List.not_mem_nil, Or.inr ⟨k, keys, rfl, ?_⟩⟩
      exact ⟨stop?_cons_of_hasExpired hk keys, read_cons_of_hasExpired hk keys⟩
    | false =>
      obtain ⟨whole, rest, rfl, hwhole, hend⟩ := ih
      refine ⟨k :: whole, rest, rfl, List.forall_mem_cons.2 ⟨hk, hwhole⟩, ?_⟩
      rw [stop?_cons_of_not_hasExpired hk, read_cons_of_not_hasExpired hk, List.flatMap_cons]
      rcases hend with ⟨hrest, hstop, hread⟩ | ⟨j, post, hrest, hstop, hread⟩
      · exact Or.inl ⟨hrest, hstop, by rw [hread]⟩
      · exact Or.inr ⟨j, post, hrest, hstop, by rw [hread, List.append_assoc]⟩

/-- Of the records of several keys, those of one. -/
theorem filter_flatMap_recordsUnder {whole : List String} (h : whole.Nodup) (c : Collection)
    (k : String) :
    (whole.flatMap c.recordsUnder).filter (·.key = k) =
      if k ∈ whole then c.recordsUnder k else [] := by
  have hself : ∀ j, (c.recordsUnder j).filter (·.key = k) =
      if j = k then c.recordsUnder j else [] := by
    intro j
    split
    · next hj =>
      exact List.filter_eq_self.2 fun r hr => decide_eq_true ((key_of_mem_recordsUnder hr).trans hj)
    · next hj =>
      exact List.filter_eq_nil_iff.2 fun r hr => by simp [key_of_mem_recordsUnder hr, hj]
  induction whole with
  | nil => rfl
  | cons j whole ih =>
    obtain ⟨hj, hwhole⟩ := List.nodup_cons.1 h
    rw [List.flatMap_cons, List.filter_append, hself, ih hwhole]
    by_cases hjk : j = k
    · subst hjk
      rw [if_pos rfl, if_neg hj, if_pos List.mem_cons_self, List.append_nil]
    · have hmem : k ∈ j :: whole ↔ k ∈ whole :=
        List.mem_cons.trans (or_iff_right fun e => hjk e.symm)
      rw [if_neg hjk, List.nil_append]
      exact (if_congr hmem rfl rfl).symm

/-- **A scan of buckets that consist of two blocks.** -/
theorem allOrNothing_read (hb : ∀ k, Blocks (c.bucket k)) (now : Instant) {keys : List String}
    (hkeys : keys.Nodup) :
    AllOrNothing c now keys (c.read now keys) (c.afterScan now keys) := by
  obtain ⟨whole, rest, hsplit, hwhole, hend⟩ := exists_whole_append c now keys
  -- the bucket at which the scan stops starts with an expired value, so there is nothing in front
  have hscan : c.read now keys = whole.flatMap c.recordsUnder ∧
      (rest = [] ∧ c.afterScan now keys = c ∨ ∃ k post e tail, rest = k :: post ∧
        c.bucket k = e :: tail ∧ e.isExpiredAt now = true ∧
        c.afterScan now keys = c.setBucket k tail) := by
    rcases hend with ⟨hrest, hstop, hread⟩ | ⟨k, post, hrest, hstop, hread⟩
    · refine ⟨hread, Or.inl ⟨hrest, ?_⟩⟩
      rw [afterScan, hstop]
    · obtain ⟨e, tail, hbucket, he⟩ :=
        (hb k).exists_cons_of_hasExpired (hasExpired_of_stop?_eq_some hstop)
      refine ⟨?_, Or.inr ⟨k, post, e, tail, hrest, hbucket, he, ?_⟩⟩
      · rw [hread, hbucket, liveRecords, List.takeWhile_cons_of_neg (by simp [he]), List.map_nil,
          List.append_nil]
      · rw [afterScan, hstop]
        show c.dropExpired now k = _
        rw [dropExpired, hbucket,
          List.eraseP_cons_of_pos (p := fun e : Entry => e.isExpiredAt now) he]
  refine ⟨⟨whole, rest, hsplit, hwhole, hscan⟩, fun k => ?_⟩
  have hnodup : whole.Nodup := (List.nodup_append.1 (hsplit ▸ hkeys)).1
  rw [hscan.1, filter_flatMap_recordsUnder hnodup]
  by_cases hk : k ∈ whole
  · exact Or.inr (if_pos hk)
  · exact Or.inl (if_neg hk)

/-- No key is visited twice. -/
theorem nodup_visited (h : c.buckets.WellFormed) (op : Operation) : (op.visited c).Nodup := by
  have hkeys : ∀ order : ScanOrder, (order.arrange c.keys).Nodup := fun order =>
    (order.perm c.keys).nodup_iff.2 h.1
  rw [Operation.visited]
  cases op with
  | resolveKey k out => exact (List.nodup_singleton k).filter _
  | resolveAll order k ask out =>
    rw [Operation.scan?]
    refine List.Nodup.filter _ ?_
    split
    · exact hkeys order
    · exact List.nodup_singleton k
  | resolveMatching order pattern ask out =>
    rw [Operation.scan?]
    cases KeyPattern.compile pattern c.ignoreCase with
    | ok p => exact (hkeys order).filter _
    | error e => exact List.nodup_nil
  | _ => exact List.nodup_nil

/-- **Buckets are returned whole or not at all.**  Whatever was done to a collection, each of its
buckets consists of values that expire together and values that do not expire; so at any reading of
the clock the expired values are in front, and a resolution whose filter does not fail hands out
all the values of a bucket, or none of them and erases the first. -/
theorem buckets_are_all_or_nothing {c : Collection} (h : Reachable c) :
    (∀ k, Blocks (c.bucket k)) ∧
    (∀ now k, ∃ expired live, c.bucket k = expired ++ live ∧
      (∀ e ∈ expired, e.isExpiredAt now = true) ∧ ∀ e ∈ live, e.isExpiredAt now = false) ∧
    (∀ x : Call, x.op.isResolution = true →
      (∃ message, c.perform x = (c, ⟨.failed message, []⟩)) ∨
      ∃ found, (c.perform x).2.answer = .records (x.op.deliver found) ∧
        AllOrNothing c x.now (x.op.visited c) found (c.perform x).1) := by
  refine ⟨h.blocks, fun now k => (h.blocks k).exists_expired_append now, fun x hx => ?_⟩
  refine (perform_resolution c hx).imp_right ?_
  rintro ⟨events, hperform⟩
  rw [hperform]
  exact ⟨_, rfl, allOrNothing_read h.blocks x.now (nodup_visited h.wellFormed x.op)⟩

/-- A key without an expiry, and a key whose first value is expired. -/
def halfAged : Collection :=
  (named "vars").run
    [⟨.zero, .store "b" "z"⟩, ⟨.zero, .store "a" "x"⟩, ⟨.zero, .setExpiry "a" 0⟩,
      ⟨.zero, .store "a" "y"⟩]

/-- A resolution of everything: the first key is returned, and nothing of the second. -/
theorem halfAged_is_all_or_nothing :
    Reachable halfAged ∧
      AllOrNothing halfAged .zero ["b", "a"] [⟨"vars", "b", "z"⟩]
        (halfAged.perform ⟨.zero, .resolveAll .asStored "" .keepAll []⟩).1 := by
  have h : Reachable halfAged := (Reachable.named "vars").run _
  have hrecords : (halfAged.perform ⟨.zero, .resolveAll .asStored "" .keepAll []⟩).2.answer =
      .records [⟨"vars", "b", "z"⟩] := by decide
  refine ⟨h, ?_⟩
  rcases (buckets_are_all_or_nothing h).2.2 ⟨.zero, .resolveAll .asStored "" .keepAll []⟩ rfl with
    ⟨message, hfailed⟩ | ⟨found, hanswer, hall⟩
  · rw [hfailed] at hrecords
    cases hrecords
  · have hfound : found.reverse ++ [] = [⟨"vars", "b", "z"⟩] :=
      Answer.records.inj (hanswer.symm.trans hrecords)
    rw [List.append_nil, List.reverse_eq_iff] at hfound
    rw [hfound] at hall
    exact hall

end Collection
end VarStore
