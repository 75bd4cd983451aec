import WebCompat.Proofs.Text.Reading

/-!
Listings: everything of a kind that a text holds, from its start to its end. A reading says where to
go on after each thing that is found, a listing says only what is there. Both come to the same where
what may begin at a position is part of something whole: then a reading never begins inside of
anything, and passes over nothing.

Owns: listings; when what begins at the positions of a text is made of wholes; and that a reading
lists the wholes.
-/

namespace WebCompat.Text

variable {α : Type}

/-- All positions of a kind in their order, each with what stands there. -/
structure Lists (stands : Nat → α → Prop) (spots : List (Nat × α)) : Prop where
  increasing : (spots.map Prod.fst).Pairwise (· < ·)
  complete : ∀ position value, (position, value) ∈ spots ↔ stands position value

/-- Something in a text, and the positions where it starts and stops. -/
structure Extent (α : Type) where
  start : Nat
  value : α
  stop : Nat

/-- Whatever begins at a position is part of something whole that stops where it stops. What begins
before the stop of something has the same stop, and of the wholes each has a stop of its own. -/
structure HasWholes (begins whole : Nat → α → Nat → Prop) : Prop where
  forward : ∀ {start value stop}, begins start value stop → start < stop
  determined : ∀ {start value stop other back}, begins start value stop →
    begins start other back → value = other ∧ stop = back
  sameStop : ∀ {start value stop next other back}, begins start value stop →
    begins next other back → start ≤ next → next < stop → stop = back
  begins_of_whole : ∀ {start value stop}, whole start value stop → begins start value stop
  exists_whole : ∀ {start value stop}, begins start value stop →
    ∃ front other, front ≤ start ∧ whole front other stop
  sameStart : ∀ {start value stop next other}, whole start value stop → whole next other stop →
    start = next

namespace HasWholes

variable {begins whole : Nat → α → Nat → Prop} {start : Nat} {values : List α}

/-- No two wholes overlap. -/
theorem stop_le (wholes : HasWholes begins whole) {start stop next back : Nat} {value other : α}
    (isWhole : whole start value stop) (isNext : whole next other back) (later : start < next) :
    stop ≤ next := by
  apply Nat.not_lt.mp
  intro inside
  have same : stop = back :=
    wholes.sameStop (wholes.begins_of_whole isWhole) (wholes.begins_of_whole isNext)
      (Nat.le_of_lt later) inside
  have sameStart := wholes.sameStart isWhole (same ▸ isNext)
  omega

/-- What begins before a whole stops does not reach over it. -/
theorem stop_le_stop (wholes : HasWholes begins whole) {start stop next back : Nat}
    {value other : α} (isWhole : whole start value stop) (isNext : whole next other back)
    (before : next < stop) : back ≤ stop := by
  have ahead := wholes.forward (wholes.begins_of_whole isWhole)
  rcases Nat.lt_trichotomy next start with earlier | same | inside
  · have stops := wholes.stop_le isNext isWhole earlier
    omega
  · rw [same] at isNext
    obtain ⟨_, sameStop⟩ :=
      wholes.determined (wholes.begins_of_whole isWhole) (wholes.begins_of_whole isNext)
    omega
  · have stops := wholes.stop_le isWhole isNext inside
    omega

/-- What begins first, behind a start that is inside of no whole, is a whole. -/
theorem whole_of_least (wholes : HasWholes begins whole) {start place stop : Nat} {value : α}
    (outside : ∀ front value stop, whole front value stop → front < start → stop ≤ start)
    (behind : start ≤ place)
    (least : ∀ earlier, start ≤ earlier → earlier < place →
      ∀ other back, ¬begins earlier other back)
    (here : begins place value stop) : whole place value stop := by
  have ahead := wholes.forward here
  obtain ⟨front, other, inFront, isFront⟩ := wholes.exists_whole here
  have fromStart : start ≤ front := by
    apply Nat.not_lt.mp
    intro before
    have stops := outside _ _ _ isFront before
    omega
  have isPlace : front = place := by
    apply Nat.le_antisymm inFront
    apply Nat.not_lt.mp
    intro earlier
    exact least _ fromStart earlier _ _ (wholes.begins_of_whole isFront)
  rw [isPlace] at isFront
  obtain ⟨sameValue, _⟩ := wholes.determined here (wholes.begins_of_whole isFront)
  rwa [sameValue]

/-- **A reading finds the wholes**, if it does not start inside of one. The induction is the reading:
the stop of a whole is inside of no other. -/
theorem exists_extents (wholes : HasWholes begins whole) (reading : Reading begins start values)
    (outside : ∀ front value stop, whole front value stop → front < start → stop ≤ start) :
    ∃ extents : List (Extent α), values = extents.map Extent.value ∧
      extents.Pairwise (fun extent next => extent.stop ≤ next.start) ∧
      ∀ extent, extent ∈ extents ↔
        start ≤ extent.start ∧ whole extent.start extent.value extent.stop := by
  induction reading with
  | finished nothing =>
      refine ⟨[], rfl, List.Pairwise.nil, ?_⟩
      intro extent
      refine iff_of_false List.not_mem_nil ?_
      rintro ⟨behind, isWhole⟩
      exact nothing _ behind _ _ (wholes.begins_of_whole isWhole)
  | @found start place value stop values behind least here later inductionHypothesis =>
      have ahead := wholes.forward here
      have isWhole : whole place value stop := wholes.whole_of_least outside behind least here
      have outsideNext : ∀ front other back, whole front other back → front < stop → back ≤ stop :=
        fun _ _ _ => wholes.stop_le_stop isWhole
      obtain ⟨extents, areValues, inOrder, members⟩ := inductionHypothesis outsideNext
      refine ⟨⟨place, value, stop⟩ :: extents, ?_, ?_, ?_⟩
      · rw [List.map_cons, areValues]
      · exact List.Pairwise.cons (fun next isMember => ((members next).mp isMember).1) inOrder
      · intro extent
        rw [List.mem_cons, members]
        constructor
        · rintro (rfl | ⟨behindStop, isOther⟩)
          · exact ⟨behind, isWhole⟩
          · exact ⟨by omega, isOther⟩
        · rintro ⟨fromStart, isOther⟩
          have isThere := wholes.begins_of_whole isOther
          rcases Nat.lt_trichotomy extent.start place with earlier | same | further
          · exact absurd isThere (least _ fromStart earlier _ _)
          · left
            obtain ⟨other, what, back⟩ := extent
            cases same
            obtain ⟨rfl, rfl⟩ := wholes.determined here isThere
            rfl
          · exact .inr ⟨wholes.stop_le isWhole isOther further, isOther⟩

/-- A reading from the start of a text lists the wholes by any position that lies in them. -/
theorem exists_lists (wholes : HasWholes begins whole) (reading : Reading begins 0 values)
    {position : Nat → Nat → Nat}
    (inside : ∀ {start stop}, start < stop →
      start ≤ position start stop ∧ position start stop < stop)
    {stands : Nat → α → Prop}
    (same : ∀ spot value, stands spot value ↔
      ∃ start stop, whole start value stop ∧ position start stop = spot) :
    ∃ spots, Lists stands spots ∧ values = spots.map Prod.snd := by
  obtain ⟨extents, areValues, inOrder, members⟩ :=
    wholes.exists_extents reading fun _ _ _ _ before => absurd before (Nat.not_lt_zero _)
  have isWhole : ∀ extent ∈ extents, whole extent.start extent.value extent.stop :=
    fun extent isMember => ((members extent).mp isMember).2
  have ahead : ∀ extent ∈ extents, extent.start < extent.stop :=
    fun extent isMember => wholes.forward (wholes.begins_of_whole (isWhole extent isMember))
  refine ⟨extents.map fun extent => (position extent.start extent.stop, extent.value), ⟨?_, ?_⟩, ?_⟩
  · rw [List.map_map, List.pairwise_map]
    refine inOrder.imp_of_mem ?_
    intro extent next isExtent isNext stops
    have first := inside (ahead extent isExtent)
    have second := inside (ahead next isNext)
    show position extent.start extent.stop < position next.start next.stop
    omega
  · intro spot value
    rw [same, List.mem_map]
    constructor
    · rintro ⟨extent, isMember, isSpot⟩
      cases isSpot
      exact ⟨extent.start, extent.stop, isWhole extent isMember, rfl⟩
    · rintro ⟨start, stop, isThere, rfl⟩
      exact ⟨⟨start, value, stop⟩, (members _).mpr ⟨Nat.zero_le _, isThere⟩, rfl⟩
  · rw [areValues, List.map_map]
    rfl

end HasWholes

end WebCompat.Text
