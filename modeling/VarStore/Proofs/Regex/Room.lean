import VarStore.Proofs.Regex.Flat

/-!
# Room for flat patterns

How much room a pattern takes depends on how its layout is put together, and on the way each state
may find that there is none left.  For patterns without operators a bound can be added up sign by
sign.

Laying out is a chain of steps each of which fails for want of room or goes on with more states.  A
step that takes at most so many bytes succeeds wherever there are so many left, and steps that
follow one another take what they take together (`Takes`, `Takes.bind`).  Putting neighbouring texts
together saves nothing and costs nothing, so the layout of a sequence takes no more than its parts,
and one state (`room_sequence_le`).

* `Layout.Slim`, `Layout.room`: layouts without choice, repetition and wide classes, and their
  bytes.
* `fits_of_room_le`, `exists_compile`: patterns of such signs compile.
-/

namespace VarStore

namespace Room

variable {lay next : Build → Option Build} {m n : Nat}

/-- Laying out succeeds where this many bytes are left, and takes no more. -/
def Takes (n : Nat) (lay : Build → Option Build) : Prop :=
  ∀ b, b.bytes + n ≤ limit → ∃ d, lay b = some d ∧ d.bytes ≤ b.bytes + n

theorem takes_add (states listed : Nat) : Takes (32 * states + listed) (·.add states listed) := by
  intro b hb
  have hbytes : (Build.mk (b.states + states) (b.listed + listed)).bytes =
      b.bytes + (32 * states + listed) := by
    simp only [Build.bytes]
    omega
  refine ⟨⟨b.states + states, b.listed + listed⟩, ?_, Nat.le_of_eq hbytes⟩
  unfold Build.add
  dsimp only
  rw [hbytes, if_pos hb]

theorem Takes.mono (hlay : Takes m lay) (hmn : m ≤ n) : Takes n lay := by
  intro b hb
  obtain ⟨d, hd, hbytes⟩ := hlay b (by omega)
  exact ⟨d, hd, by omega⟩

/-- One step after the other. -/
theorem Takes.bind (hlay : Takes m lay) (hnext : Takes n next) :
    Takes (m + n) fun b => (lay b).bind next := by
  intro b hb
  obtain ⟨d, hd, hbytes⟩ := hlay b (by omega)
  obtain ⟨e, he, hbytes'⟩ := hnext d (by omega)
  refine ⟨e, ?_, by omega⟩
  dsimp only
  rw [hd, Option.bind_some, he]

end Room

namespace Layout

open Room

/-- There is no choice, no repetition and no group, and the classes are within ASCII. -/
def Slim : Layout → Prop
  | empty => True
  | text _ => True
  | chars rs => rs.all (fun r => r.2 < 0x80) = true
  | look _ => True
  | seq r s => r.Slim ∧ s.Slim
  | _ => False

/-- The bytes that a slim layout takes at most. -/
def room : Layout → Nat
  | text cs => 32 * (bytesOf cs).length
  | chars rs => 64 + 8 * rs.length
  | seq r s => r.room + s.room
  | _ => 32

/-- The bytes that several parts take together. -/
def roomOf : List Layout → Nat
  | [] => 0
  | r :: rs => r.room + roomOf rs

theorem roomOf_append (rs ts : List Layout) : roomOf (rs ++ ts) = roomOf rs + roomOf ts := by
  induction rs with
  | nil => simp [roomOf]
  | cons r rs ih =>
    rw [List.cons_append, roomOf, roomOf, ih]
    omega

/-- **A slim layout takes its room**, in either direction. -/
theorem takes_lay (backwards : Bool) {r : Layout} (hr : r.Slim) :
    Takes r.room (lay backwards .whole r) := by
  induction r with
  | empty => simpa [lay, Place.close, room] using takes_add 1 0
  | text cs => simpa [lay, Place.close, room] using takes_add (bytesOf cs).length 0
  | chars rs =>
    have hclass : ∀ b, layClass backwards rs b = b.add 2 (8 * rs.length) := by
      intro b
      exact if_pos hr
    simpa [lay, Place.close, room, hclass] using takes_add 2 (8 * rs.length)
  | look l => simpa [lay, Place.close, room] using takes_add 1 0
  | seq r s ihr ihs =>
    obtain ⟨hr, hs⟩ := hr
    cases backwards with
    | false => simpa [lay, Place.close, room] using (ihr hr).bind (ihs hs)
    | true =>
      simpa [lay, Place.close, room, Nat.add_comm] using (ihs hs).bind (ihr hr)
  | rep => exact hr.elim
  | group => exact hr.elim
  | alt => exact hr.elim

/-- A group takes two states more forwards, and none backwards. -/
theorem takes_group (backwards : Bool) (number : Nat) {r : Layout} (hr : r.Slim) :
    Takes (r.room + 64) (lay backwards .whole (.group number r)) := by
  have hr := takes_lay backwards hr
  cases backwards with
  | false =>
    have hone : Takes 32 fun b => b.add 1 0 := takes_add 1 0
    have hall := (hone.bind hr).bind hone
    have hbytes : 32 + r.room + 32 = r.room + 64 := by omega
    rw [hbytes] at hall
    simpa [lay, Place.close, Option.bind_assoc] using hall
  | true =>
    have hall := hr.mono (Nat.le_add_right r.room 64)
    simpa [lay, Place.close] using hall

/-- **Layouts that take little enough fit.** -/
theorem fits_of_room_le {r : Layout} (hr : r.Slim) (hroom : r.room + 208 ≤ limit) :
    r.fits = true := by
  have hautomaton : ∀ backwards, (automaton backwards r).isSome = true := by
    intro backwards
    have hrest := (takes_group backwards 0 hr).bind (takes_add 1 0)
    have hfrom : ∀ states listed, 32 * states + listed ≤ 112 →
        ((Build.add ⟨0, 0⟩ states listed).bind fun b =>
          (lay backwards .whole (.group 0 r) b).bind (·.add 1 0)).isSome = true := by
      intro states listed hbytes
      have hempty : (Build.mk 0 0).bytes = 0 := rfl
      obtain ⟨d, hd, -⟩ := (takes_add states listed).bind hrest ⟨0, 0⟩ (by omega)
      dsimp only at hd
      rw [hd, Option.isSome_some]
    unfold automaton
    dsimp only
    generalize (if backwards = true then r.isEndBound else r.isStartBound) = bound
    cases bound with
    | true => exact hfrom 1 0 (by omega)
    | false => exact hfrom 3 16 (by omega)
  rw [Layout.fits, hautomaton, hautomaton]
  rfl

/-! ## The layout of a sequence -/

theorem slim_addItem {r : Layout} {rs : List Layout} (hr : r.Slim) (hrs : ∀ s ∈ rs, s.Slim) :
    ∀ s ∈ addItem r rs, s.Slim := by
  unfold addItem
  split
  · exact hrs
  · exact List.forall_mem_cons.2 ⟨trivial, (List.forall_mem_cons.1 hrs).2⟩
  · exact List.forall_mem_cons.2 ⟨hr, hrs⟩

theorem roomOf_addItem_le (r : Layout) (rs : List Layout) :
    roomOf (addItem r rs) ≤ r.room + roomOf rs := by
  unfold addItem
  split
  · exact Nat.le_add_left _ _
  · next cs ds rs =>
    have hbytes : (bytesOf (cs ++ ds)).length = (bytesOf cs).length + (bytesOf ds).length := by
      rw [bytesOf, List.flatMap_append, List.length_append, bytesOf, bytesOf]
    simp only [roomOf, room, hbytes]
    omega
  · exact Nat.le_refl _

theorem slim_chain {rs : List Layout} (hrs : ∀ s ∈ rs, s.Slim) : (chain rs).Slim := by
  induction rs with
  | nil => trivial
  | cons r rs ih =>
    obtain ⟨hr, hothers⟩ := List.forall_mem_cons.1 hrs
    cases rs with
    | nil => exact hr
    | cons s rs => exact ⟨hr, ih hothers⟩

theorem room_chain_le (rs : List Layout) : (chain rs).room ≤ roomOf rs + 32 := by
  induction rs with
  | nil => exact Nat.le_refl 32
  | cons r rs ih =>
    cases rs with
    | nil => simp [chain, roomOf]
    | cons s rs =>
      simp only [chain, room, roomOf] at ih ⊢
      omega

theorem slim_items {r : Layout} (hr : r.Slim) : ∀ s ∈ r.items, s.Slim := by
  induction r with
  | seq r s ihr ihs =>
    obtain ⟨hr, hs⟩ := hr
    rw [items]
    exact List.forall_mem_append.2 ⟨ihr hr, ihs hs⟩
  | _ => exact List.forall_mem_singleton.2 hr

theorem roomOf_items (r : Layout) : roomOf r.items = r.room := by
  induction r with
  | seq r s ihr ihs => rw [items, roomOf_append, ihr, ihs, room]
  | _ => simp [items, roomOf]

/-- **A sequence takes no more than its parts**, and one state. -/
theorem slim_sequence {rs : List Layout} (hrs : ∀ r ∈ rs, r.Slim) : (sequence rs).Slim := by
  refine slim_chain ?_
  have hitems : ∀ s ∈ rs.flatMap items, s.Slim := by
    intro s hs
    obtain ⟨r, hr, hs⟩ := List.mem_flatMap.1 hs
    exact slim_items (hrs r hr) s hs
  generalize rs.flatMap items = ts at hitems
  induction ts with
  | nil => simp
  | cons t ts ih =>
    obtain ⟨ht, hothers⟩ := List.forall_mem_cons.1 hitems
    exact slim_addItem ht (ih hothers)

theorem room_sequence_le (rs : List Layout) : (sequence rs).room ≤ roomOf rs + 32 := by
  have hitems : roomOf (rs.flatMap items) = roomOf rs := by
    induction rs with
    | nil => rfl
    | cons r rs ih => rw [List.flatMap_cons, roomOf_append, roomOf_items, ih, roomOf]
  have hjoined : ∀ ts : List Layout, roomOf (ts.foldr addItem []) ≤ roomOf ts := by
    intro ts
    induction ts with
    | nil => exact Nat.le_refl _
    | cons t ts ih =>
      have hadd := roomOf_addItem_le t (ts.foldr addItem [])
      have hcons : roomOf (t :: ts) = t.room + roomOf ts := rfl
      rw [List.foldr_cons]
      omega
  have hchain := room_chain_le ((rs.flatMap items).foldr addItem [])
  have hall := hjoined (rs.flatMap items)
  rw [sequence]
  omega

end Layout

namespace Regex

open Layout

/-- The layout of a sequence of pieces. -/
theorem layout_sequence {ps : List Piece} (hps : ∀ p ∈ ps, p.layout.Slim) :
    (Piece.sequence ps).layout.Slim ∧
      (Piece.sequence ps).layout.room ≤ roomOf (ps.reverse.map (·.layout)) + 32 := by
  unfold Piece.sequence
  split
  · exact ⟨trivial, Nat.le_add_left _ _⟩
  · next p =>
    refine ⟨hps p List.mem_cons_self, ?_⟩
    simp [roomOf]
  · refine ⟨slim_sequence fun r hr => ?_, room_sequence_le _⟩
    obtain ⟨p, hp, rfl⟩ := List.mem_map.1 hr
    exact hps p (List.mem_reverse.1 hp)

/-- **Flat patterns compile** if the bytes of their signs stay below the limit. -/
theorem exists_compile {pattern : String} (hpattern : ∀ c ∈ pattern.toList, IsFlat c)
    {ignoreCase : Bool}
    (hslim : ∀ c ∈ pattern.toList, (flatPiece (.initial ignoreCase) c).layout.Slim)
    (hroom : roomOf (pattern.toList.map fun c => (flatPiece (.initial ignoreCase) c).layout) + 240 ≤
      Room.limit) :
    ∃ p, KeyPattern.compile pattern ignoreCase = .ok p := by
  have hpieces : ∀ p ∈ (pattern.toList.map (flatPiece (.initial ignoreCase))).reverse,
      p.layout.Slim := by
    intro p hp
    obtain ⟨c, hc, rfl⟩ := List.mem_map.1 (List.mem_reverse.1 hp)
    exact hslim c hc
  obtain ⟨hflat, hbytes⟩ := layout_sequence hpieces
  rw [List.reverse_reverse, List.map_map] at hbytes
  have hfits : (flat (.initial ignoreCase) pattern.toList).layout.fits = true :=
    fits_of_room_le hflat (Nat.le_trans (Nat.add_le_add_right hbytes 208) hroom)
  unfold KeyPattern.compile
  rw [read_flat hpattern, if_pos hfits]
  exact ⟨_, rfl⟩

end Regex
end VarStore
