import WebCompat.Proofs.Text.Reading
import WebCompat.Text.Word

/-!
Patterns of characters, with parts to be captured. A pattern is matched by trying: the alternatives
from left to right, repetitions from the longest to the shortest, and the first way that leads to
the end is the match. Where a piece that is taken too short can never be followed by the rest of the
pattern, no second try succeeds, so that the match is read from left to right.

Owns: the ways through a pattern in the order in which they are tried; when a sequence needs no
second try; and what is taken by the parts that patterns are made of.
-/

namespace WebCompat.Text

/-- A pattern of characters. -/
inductive Pattern where
  | literal (word : List Char)
  /-- One character of a class. -/
  | one (inClass : Char → Bool)
  /-- Any number of characters of a class. -/
  | many (inClass : Char → Bool)
  /-- The edge of a word. -/
  | edge
  | sequence (first second : Pattern)
  | either (first second : Pattern)
  | captured (part : Pattern)

namespace Pattern

/-- Several patterns one behind the other. -/
def inOrder : List Pattern → Pattern
  | [] => literal []
  | [last] => last
  | first :: second :: others => sequence first (inOrder (second :: others))

/-- How far one has come through a pattern, and what was captured on the way. -/
structure Way where
  position : Nat
  captures : List String

section Ways

variable (text : List Char)

/-- The character in front of a position. -/
def before (position : Nat) : Option Char :=
  (text.take position).getLast?

/-- The character at a position. -/
def after (position : Nat) : Option Char :=
  (text.drop position).head?

/-- The ways through a pattern in the order in which they are tried. -/
def ways : Pattern → Way → List Way
  | literal word, way =>
      if word <+: text.drop way.position then [⟨way.position + word.length, way.captures⟩] else []
  | one inClass, way =>
      if (after text way.position).any inClass then [⟨way.position + 1, way.captures⟩] else []
  | many inClass, way =>
      let longest := ((text.drop way.position).takeWhile inClass).length
      (List.range (longest + 1)).reverse.map fun count => ⟨way.position + count, way.captures⟩
  | edge, way =>
      if isBoundary (before text way.position) (after text way.position) then [way] else []
  | sequence first second, way => (ways first way).flatMap (ways second)
  | either first second, way => ways first way ++ ways second way
  | captured part, way =>
      (ways part way).map fun next =>
        ⟨next.position,
          next.captures ++ [String.ofList ((text.take next.position).drop way.position)]⟩

section Shapes

variable (way : Way)

theorem ways_literal (word : List Char) :
    ways text (literal word) way =
      if word <+: text.drop way.position then [⟨way.position + word.length, way.captures⟩]
      else [] :=
  rfl

theorem ways_one (inClass : Char → Bool) :
    ways text (one inClass) way =
      if (after text way.position).any inClass then [⟨way.position + 1, way.captures⟩] else [] :=
  rfl

theorem ways_many (inClass : Char → Bool) :
    ways text (many inClass) way =
      (List.range (((text.drop way.position).takeWhile inClass).length + 1)).reverse.map
        fun count => ⟨way.position + count, way.captures⟩ :=
  rfl

theorem ways_edge :
    ways text edge way =
      if isBoundary (before text way.position) (after text way.position) then [way] else [] :=
  rfl

theorem ways_sequence (first second : Pattern) :
    ways text (sequence first second) way = (ways text first way).flatMap (ways text second) :=
  rfl

theorem ways_either (first second : Pattern) :
    ways text (either first second) way = ways text first way ++ ways text second way :=
  rfl

theorem ways_captured (part : Pattern) :
    ways text (captured part) way =
      (ways text part way).map fun next =>
        ⟨next.position,
          next.captures ++ [String.ofList ((text.take next.position).drop way.position)]⟩ :=
  rfl

end Shapes

/-- The first way that leads to the end of a pattern. -/
def preferred (pattern : Pattern) (way : Way) : Option Way :=
  (ways text pattern way).head?

/-- The match of a pattern that starts at a position. -/
def MatchesAt (pattern : Pattern) (start : Nat) (captures : List String) (stop : Nat) : Prop :=
  preferred text pattern ⟨start, []⟩ = some ⟨stop, captures⟩

end Ways

/-! ## Pieces of a text -/

/-- Whether a piece of a text stands between two positions. -/
def Spells (text : List Char) (start : Nat) (piece : List Char) (stop : Nat) : Prop :=
  piece <+: text.drop start ∧ stop = start + piece.length

section Pieces

variable {text : List Char} {start stop : Nat} {piece : List Char}

theorem spells_append_iff {other : List Char} :
    Spells text start (piece ++ other) stop ↔
      ∃ middle, Spells text start piece middle ∧ Spells text middle other stop := by
  simp only [Spells, List.length_append]
  constructor
  · rintro ⟨isPrefix, rfl⟩
    refine ⟨_, ⟨(List.prefix_append _ _).trans isPrefix, rfl⟩, ?_, by omega⟩
    obtain ⟨rest, split⟩ := isPrefix
    rw [← List.drop_drop, ← split]
    simp
  · rintro ⟨_, ⟨⟨rest, split⟩, rfl⟩, isPrefix, rfl⟩
    rw [← List.drop_drop, ← split, List.drop_left] at isPrefix
    rw [← split]
    exact ⟨(List.prefix_append_right_inj piece).mpr isPrefix, by omega⟩

theorem Spells.drop_eq (spells : Spells text start piece stop) :
    text.drop start = piece ++ text.drop stop := by
  obtain ⟨⟨rest, split⟩, rfl⟩ := spells
  rw [← List.drop_drop, ← split, List.drop_left]

/-- What is cut out between the positions is the piece. -/
theorem Spells.between (spells : Spells text start piece stop) :
    (text.take stop).drop start = piece := by
  obtain ⟨isPrefix, rfl⟩ := spells
  rw [List.drop_take, Nat.add_sub_cancel_left]
  exact (List.prefix_iff_eq_take.mp isPrefix).symm

theorem spells_iff (notEmpty : piece ≠ []) :
    Spells text start piece stop ↔
      stop ≤ text.length ∧ text.drop start = piece ++ text.drop stop := by
  have length := List.length_pos_iff.mpr notEmpty
  constructor
  · intro spells
    have split := spells.drop_eq
    have lengths := congrArg List.length split
    have isStop := spells.2
    simp only [List.length_append, List.length_drop] at lengths
    exact ⟨by omega, split⟩
  · rintro ⟨inText, split⟩
    have lengths := congrArg List.length split
    simp only [List.length_append, List.length_drop] at lengths
    exact ⟨split ▸ List.prefix_append _ _, by omega⟩

theorem Spells.before_eq (spells : Spells text start piece stop) :
    before text stop = piece.getLast?.or (before text start) := by
  rw [before, spells.2, List.take_add, ← List.prefix_iff_eq_take.mp spells.1, List.getLast?_append]
  rfl

/-- A run ends in front of a piece that begins with a character of another class. -/
theorem Spells.ends {inClass : Char → Bool} {first : Char} (outside : inClass first = false)
    (spells : Spells text start (first :: piece) stop) :
    ∀ c ∈ (text.drop start).head?, inClass c = false := by
  rw [spells.drop_eq]
  intro c isHead
  cases isHead
  exact outside

end Pieces

/-! ## Second tries -/

/-- What stands around a position: the character in front of it and the one behind it. -/
abbrev Spot :=
  Option Char → Option Char → Prop

/-- The spots in front of a character of a class. -/
def Next (inClass : Char → Bool) : Spot :=
  fun _ back => back.any inClass = true

/-- The spots between two characters of a class. -/
def Inside (inClass : Char → Bool) : Spot :=
  fun front back => front.any inClass = true ∧ back.any inClass = true

/-- Whether every way but the first leads to a spot of a kind. -/
def DetoursTo (pattern : Pattern) (spot : Spot) : Prop :=
  ∀ text way other, other ∈ ways text pattern way → preferred text pattern way ≠ some other →
    spot (before text other.position) (after text other.position)

/-- Whether there is no way through a pattern from the spots of a kind. -/
def Rejects (pattern : Pattern) (spot : Spot) : Prop :=
  ∀ text way, spot (before text way.position) (after text way.position) →
    ways text pattern way = []

/-- Whether there are no ways but the first. -/
def IsSingle (pattern : Pattern) : Prop :=
  pattern.DetoursTo fun _ _ => False

section Sequences

variable {text : List Char} {first second part : Pattern} {spot : Spot}

/-- **A sequence needs no second try** if its second part rejects all that the first part leads to
but on the first way. -/
theorem preferred_sequence (detours : first.DetoursTo spot) (rejects : second.Rejects spot)
    (way : Way) :
    preferred text (sequence first second) way =
      (preferred text first way).bind (preferred text second) := by
  have rejected : ∀ other ∈ ways text first way, preferred text first way ≠ some other →
      ways text second other = [] := fun other isWay notFirst =>
    rejects text other (detours text way other isWay notFirst)
  unfold preferred at rejected ⊢
  rw [ways_sequence]
  cases isWays : ways text first way with
  | nil => rfl
  | cons best others =>
      rw [isWays] at rejected
      rw [List.flatMap_cons, List.head?_append, List.head?_cons, Option.bind_some]
      cases isNext : (ways text second best).head? with
      | some next => rfl
      | none =>
          -- The first way may be found again among the others; it fails there as well.
          have nothing : others.flatMap (ways text second) = [] := by
            rw [List.flatMap_eq_nil_iff]
            intro other isOther
            by_cases same : other = best
            · rw [same]
              exact List.head?_eq_none_iff.mp isNext
            · apply rejected other (List.mem_cons_of_mem _ isOther)
              rw [List.head?_cons]
              exact fun equal => same (Option.some.inj equal).symm
          rw [nothing]
          rfl

theorem preferred_sequence_of_isSingle (single : first.IsSingle) (way : Way) :
    preferred text (sequence first second) way =
      (preferred text first way).bind (preferred text second) :=
  preferred_sequence single (fun _ _ => False.elim) way

theorem preferred_either (way : Way) :
    preferred text (either first second) way =
      (preferred text first way).or (preferred text second way) :=
  List.head?_append

theorem preferred_captured (way : Way) :
    preferred text (captured part) way =
      (preferred text part way).map fun next =>
        ⟨next.position,
          next.captures ++ [String.ofList ((text.take next.position).drop way.position)]⟩ :=
  List.head?_map

/-! ### Detours -/

theorem isSingle_of_length_le (atMostOne : ∀ text way, (ways text part way).length ≤ 1) :
    part.IsSingle := by
  intro text way other isWay notFirst
  have few := atMostOne text way
  unfold preferred at notFirst
  rcases isWays : ways text part way with _ | ⟨best, _ | ⟨second, others⟩⟩
  · rw [isWays] at isWay
    cases isWay
  · rw [isWays] at isWay notFirst
    exact notFirst (congrArg some (List.mem_singleton.mp isWay).symm)
  · rw [isWays] at few
    simp at few

theorem isSingle_literal (word : List Char) : (literal word).IsSingle :=
  isSingle_of_length_le fun text way => by rw [ways_literal]; split <;> simp

theorem isSingle_one (inClass : Char → Bool) : (one inClass).IsSingle :=
  isSingle_of_length_le fun text way => by rw [ways_one]; split <;> simp

theorem isSingle_edge : edge.IsSingle :=
  isSingle_of_length_le fun text way => by rw [ways_edge]; split <;> simp

/-- A run that is taken too short ends in front of a character of its class. -/
theorem detoursTo_many (inClass : Char → Bool) : (many inClass).DetoursTo (Next inClass) := by
  intro text way other isWay notFirst
  unfold preferred at notFirst
  rw [ways_many, List.range_succ, List.reverse_append] at notFirst
  simp only [ways_many, List.mem_map, List.mem_reverse, List.mem_range] at isWay
  obtain ⟨count, inRun, rfl⟩ := isWay
  have notLongest : count ≠ ((text.drop way.position).takeWhile inClass).length := by
    rintro rfl
    exact notFirst rfl
  have short : count < ((text.drop way.position).takeWhile inClass).length := by omega
  have isNext : after text (way.position + count) =
      some ((text.drop way.position).takeWhile inClass)[count] := by
    rw [after, List.head?_drop, ← List.getElem?_drop, List.getElem?_eq_some_iff]
    exact ⟨Nat.lt_of_lt_of_le short (List.takeWhile_sublist _).length_le,
      (List.takeWhile_prefix inClass).getElem short |>.symm⟩
  show (after text (way.position + count)).any inClass = true
  rw [isNext, Option.any_some]
  exact List.all_eq_true.mp List.all_takeWhile _ (List.getElem_mem short)

theorem IsSingle.preferred_eq (single : part.IsSingle) {way other : Way}
    (isWay : other ∈ ways text part way) : preferred text part way = some other :=
  Classical.byContradiction fun notFirst => single text way other isWay notFirst

theorem DetoursTo.sequence (single : first.IsSingle) (detours : second.DetoursTo spot) :
    (sequence first second).DetoursTo spot := by
  intro text way other isWay notFirst
  rw [preferred_sequence_of_isSingle single] at notFirst
  rw [ways_sequence, List.mem_flatMap] at isWay
  obtain ⟨middle, isMiddle, isWay⟩ := isWay
  rw [single.preferred_eq isMiddle] at notFirst
  exact detours text middle other isWay notFirst

theorem DetoursTo.captured (detours : part.DetoursTo spot) : (captured part).DetoursTo spot := by
  intro text way other isWay notFirst
  rw [preferred_captured] at notFirst
  rw [ways_captured, List.mem_map] at isWay
  obtain ⟨inner, isInner, rfl⟩ := isWay
  refine detours text way inner isInner fun isBest => notFirst ?_
  rw [isBest]
  rfl

/-! ### Rejections -/

theorem rejects_literal {inClass : Char → Bool} {c : Char} {word : List Char}
    (outside : inClass c = false) : (literal (c :: word)).Rejects (Next inClass) := by
  intro text way isNext
  rw [ways_literal, if_neg]
  rintro ⟨rest, split⟩
  rw [Next, after, ← split, List.cons_append, List.head?_cons, Option.any_some, outside] at isNext
  cases isNext

/-- Two classes without a common character. -/
def Apart (inClass other : Char → Bool) : Prop :=
  ∀ c, inClass c = true → other c = false

theorem Apart.any_eq_false {inClass other : Char → Bool} (apart : Apart inClass other)
    {front back : Option Char} (isNext : Next inClass front back) : back.any other = false := by
  cases back with
  | none => rfl
  | some c => exact apart c isNext

theorem rejects_one {inClass other : Char → Bool} (apart : Apart inClass other) :
    (one other).Rejects (Next inClass) := by
  intro text way isNext
  rw [ways_one, apart.any_eq_false isNext]
  rfl

/-- Between two characters of words there is no edge of a word. -/
theorem rejects_edge {inClass : Char → Bool}
    (inWord : ∀ c, inClass c = true → isWordChar c = true) : edge.Rejects (Inside inClass) := by
  have isWord : ∀ side : Option Char, side.any inClass = true → side.any isWordChar = true := by
    rintro (_ | c) isInside
    · cases isInside
    · exact inWord c isInside
  intro text way ⟨front, back⟩
  rw [ways_edge, isBoundary, isWord _ front, isWord _ back]
  rfl

theorem Rejects.sequence (rejects : first.Rejects spot) : (sequence first second).Rejects spot := by
  intro text way isSpot
  rw [ways_sequence, rejects text way isSpot]
  rfl

/-- In front of a character that is not of its class a run is empty. -/
theorem Rejects.many_sequence {inClass other : Char → Bool} (apart : Apart inClass other)
    (rejects : second.Rejects (Next inClass)) :
    (Pattern.sequence (many other) second).Rejects (Next inClass) := by
  intro text way isNext
  have none : (text.drop way.position).takeWhile other = [] := by
    have notInside := apart.any_eq_false isNext
    unfold after at notInside
    cases place : text.drop way.position with
    | nil => rfl
    | cons c rest =>
        rw [place, List.head?_cons, Option.any_some] at notInside
        rw [List.takeWhile_cons, notInside]
        rfl
  rw [ways_sequence, ways_many, none]
  simpa using rejects text way isNext

theorem Rejects.captured (rejects : part.Rejects spot) : (captured part).Rejects spot := by
  intro text way isSpot
  rw [ways_captured, rejects text way isSpot]
  rfl

end Sequences

/-! ## What the parts of a pattern take -/

section Parts

variable {text : List Char} {way next : Way}

theorem preferred_literal_iff {word : List Char} :
    preferred text (literal word) way = some next ↔
      Spells text way.position word next.position ∧ next.captures = way.captures := by
  obtain ⟨position, captures⟩ := next
  unfold preferred Spells
  rw [ways_literal]
  split <;> simp_all [eq_comm]

theorem preferred_one_iff {inClass : Char → Bool} :
    preferred text (one inClass) way = some next ↔
      ∃ c, inClass c = true ∧ Spells text way.position [c] next.position ∧
        next.captures = way.captures := by
  obtain ⟨position, captures⟩ := next
  unfold preferred Spells
  rw [ways_one, after]
  cases text.drop way.position with
  | nil => simp
  | cons c rest =>
      rw [List.head?_cons]
      by_cases inside : inClass c = true
      · simp only [Option.any_some, inside]
        constructor
        · intro isWay
          cases isWay
          exact ⟨c, inside, ⟨⟨rest, rfl⟩, rfl⟩, rfl⟩
        · rintro ⟨_, _, ⟨_, rfl⟩, rfl⟩
          rfl
      · simp only [Option.any_some, inside]
        refine iff_of_false (by simp) ?_
        rintro ⟨_, isOther, ⟨isPrefix, _⟩, _⟩
        rw [(List.cons_prefix_cons.mp isPrefix).1] at isOther
        exact inside isOther

theorem preferred_many_iff {inClass : Char → Bool} :
    preferred text (many inClass) way = some next ↔
      ∃ run, (∀ c ∈ run, inClass c = true) ∧
        (∀ c ∈ (text.drop next.position).head?, inClass c = false) ∧
        Spells text way.position run next.position ∧ next.captures = way.captures := by
  obtain ⟨position, captures⟩ := next
  unfold preferred
  rw [ways_many, List.range_succ, List.reverse_append]
  simp only [List.reverse_singleton, List.cons_append, List.map_cons, List.head?_cons,
    Option.some.injEq, Way.mk.injEq]
  constructor
  · rintro ⟨rfl, rfl⟩
    have spells : Spells text way.position ((text.drop way.position).takeWhile inClass) _ :=
      ⟨List.takeWhile_prefix _, rfl⟩
    have isRest := spells.drop_eq.symm.trans
      (List.takeWhile_append_dropWhile (p := inClass)).symm
    refine ⟨_, List.all_eq_true.mp List.all_takeWhile, ?_, spells, rfl⟩
    intro c isHead
    have stops := List.head?_dropWhile_not inClass (text.drop way.position)
    rw [← List.append_cancel_left isRest, Option.mem_def.mp isHead] at stops
    exact stops
  · rintro ⟨run, inside, ends, spells, rfl⟩
    rw [spells.drop_eq, takeWhile_append_of_ends inside ends]
    exact ⟨spells.2.symm, rfl⟩

theorem preferred_edge_iff :
    preferred text edge way = some next ↔
      isBoundary (before text way.position) (after text way.position) = true ∧ next = way := by
  unfold preferred
  rw [ways_edge]
  by_cases isEdge : isBoundary (before text way.position) (after text way.position) = true
  · simp [isEdge, eq_comm]
  · simp [isEdge]

/-! ### Runs -/

/-- A character of a class and any number of characters of another one. -/
def run (starts continues : Char → Bool) : Pattern :=
  sequence (one starts) (many continues)

variable {starts continues : Char → Bool}

/-- A run takes as much as it can. -/
theorem preferred_run_iff :
    preferred text (run starts continues) way = some next ↔
      ∃ word, IsRun starts continues word (text.drop next.position) ∧
        Spells text way.position word next.position ∧ next.captures = way.captures := by
  rw [run, preferred_sequence_of_isSingle (isSingle_one starts), Option.bind_eq_some_iff]
  simp only [preferred_one_iff, preferred_many_iff]
  constructor
  · rintro ⟨middle, ⟨c, isStart, first, sameCaptures⟩, more, inside, ends, later, captures⟩
    refine ⟨c :: more, ⟨⟨c, more, rfl, isStart, inside⟩, ends⟩, ?_, captures.trans sameCaptures⟩
    exact spells_append_iff.mpr ⟨middle.position, first, later⟩
  · rintro ⟨word, ⟨⟨c, more, rfl, isStart, inside⟩, ends⟩, spells, captures⟩
    change Spells text way.position ([c] ++ more) next.position at spells
    obtain ⟨middle, first, later⟩ := spells_append_iff.mp spells
    exact ⟨⟨middle, way.captures⟩, ⟨c, isStart, first, rfl⟩, more, inside, ends, later, captures⟩

/-- A captured run adds itself to what was captured. -/
theorem preferred_captured_run_iff :
    preferred text (captured (run starts continues)) way = some next ↔
      ∃ word, IsRun starts continues word (text.drop next.position) ∧
        Spells text way.position word next.position ∧
        next.captures = way.captures ++ [String.ofList word] := by
  rw [preferred_captured, Option.map_eq_some_iff]
  simp only [preferred_run_iff]
  constructor
  · rintro ⟨inner, ⟨word, isRun, spells, same⟩, rfl⟩
    refine ⟨word, isRun, spells, ?_⟩
    rw [spells.between, same]
  · rintro ⟨word, isRun, spells, captures⟩
    refine ⟨⟨next.position, way.captures⟩, ⟨word, isRun, spells, rfl⟩, ?_⟩
    rw [spells.between, ← captures]

theorem rejects_run {inClass : Char → Bool} (apart : Apart inClass starts) :
    (run starts continues).Rejects (Next inClass) :=
  (rejects_one apart).sequence

private theorem detoursTo_run : (run starts continues).DetoursTo (Next continues) :=
  (detoursTo_many continues).sequence (isSingle_one starts)

/-- A run that is taken too short ends inside of the class, since it is not empty. -/
theorem detoursTo_run_inside (within : ∀ c, starts c = true → continues c = true) :
    (run starts continues).DetoursTo (Inside continues) := by
  intro text way other isWay notFirst
  refine ⟨?_, detoursTo_run text way other isWay notFirst⟩
  rw [run, ways_sequence, List.mem_flatMap] at isWay
  obtain ⟨middle, isMiddle, isWay⟩ := isWay
  obtain ⟨first, isStart, spells, _⟩ :=
    preferred_one_iff.mp ((isSingle_one starts).preferred_eq isMiddle)
  simp only [ways_many, List.mem_map, List.mem_reverse, List.mem_range] at isWay
  obtain ⟨count, inRun, rfl⟩ := isWay
  generalize isLongest : (text.drop middle.position).takeWhile continues = longest at inRun
  have isPrefix : longest.take count <+: text.drop middle.position :=
    (List.take_prefix _ _).trans (isLongest ▸ List.takeWhile_prefix _)
  have taken : Spells text middle.position (longest.take count) (middle.position + count) :=
    ⟨isPrefix, by rw [List.length_take]; omega⟩
  show (before text (middle.position + count)).any continues = true
  rw [taken.before_eq, spells.before_eq]
  cases isLast : (longest.take count).getLast? with
  | none => exact within first isStart
  | some last =>
      have isMember := List.mem_of_mem_take (List.mem_of_getLast? isLast)
      rw [← isLongest] at isMember
      exact List.all_eq_true.mp List.all_takeWhile last isMember

/-! ### Sequences -/

variable {first second : Pattern} {spot : Spot}

/-- A sequence takes what its parts take, where it needs no second try. -/
theorem preferred_sequence_iff {α : Type} {takes : α → Nat → Prop} {captures : α → List String}
    (detours : first.DetoursTo spot) (rejects : second.Rejects spot)
    (same : ∀ middle, preferred text first way = some middle ↔
      ∃ value, takes value middle.position ∧ middle.captures = captures value) :
    preferred text (sequence first second) way = some next ↔
      ∃ value position, takes value position ∧
        preferred text second ⟨position, captures value⟩ = some next := by
  rw [preferred_sequence detours rejects, Option.bind_eq_some_iff]
  simp only [same]
  constructor
  · rintro ⟨⟨position, _⟩, ⟨value, taken, rfl⟩, later⟩
    exact ⟨value, position, taken, later⟩
  · rintro ⟨value, position, taken, later⟩
    exact ⟨⟨position, captures value⟩, ⟨value, taken, rfl⟩, later⟩

theorem preferred_literal_sequence_iff {word : List Char} :
    preferred text (sequence (literal word) second) way = some next ↔
      ∃ position, Spells text way.position word position ∧
        preferred text second ⟨position, way.captures⟩ = some next := by
  have taken : ∀ middle, preferred text (literal word) way = some middle ↔
      ∃ _ : Unit, Spells text way.position word middle.position ∧
        middle.captures = way.captures := fun middle => by
    rw [preferred_literal_iff, exists_const]
  rw [preferred_sequence_iff (isSingle_literal word) (fun _ _ => False.elim) taken, exists_const]

theorem preferred_many_sequence_iff (rejects : second.Rejects (Next continues)) :
    preferred text (sequence (many continues) second) way = some next ↔
      ∃ run position, ((∀ c ∈ run, continues c = true) ∧
        (∀ c ∈ (text.drop position).head?, continues c = false) ∧
        Spells text way.position run position) ∧
        preferred text second ⟨position, way.captures⟩ = some next :=
  preferred_sequence_iff (detoursTo_many continues) rejects fun middle => by
    simp only [preferred_many_iff, and_assoc]

/-- A word behind a run that cannot go on into it. -/
theorem preferred_many_literal_iff {c : Char} {word : List Char} (outside : continues c = false) :
    preferred text (sequence (many continues) (literal (c :: word))) way = some next ↔
      ∃ run, (∀ c ∈ run, continues c = true) ∧
        Spells text way.position (run ++ c :: word) next.position ∧
        next.captures = way.captures := by
  simp only [preferred_many_sequence_iff (rejects_literal outside), preferred_literal_iff,
    spells_append_iff]
  constructor
  · rintro ⟨run, position, ⟨inside, _, spells⟩, isWord, captures⟩
    exact ⟨run, inside, ⟨position, spells, isWord⟩, captures⟩
  · rintro ⟨run, inside, ⟨position, spells, isWord⟩, captures⟩
    exact ⟨run, position, ⟨inside, isWord.ends outside, spells⟩, isWord, captures⟩

theorem preferred_many_literal_sequence_iff {c : Char} {word : List Char}
    (outside : continues c = false) :
    preferred text (sequence (many continues) (sequence (literal (c :: word)) second)) way =
        some next ↔
      ∃ run position, (∀ c ∈ run, continues c = true) ∧
        Spells text way.position (run ++ c :: word) position ∧
        preferred text second ⟨position, way.captures⟩ = some next := by
  simp only [preferred_many_sequence_iff (rejects_literal outside).sequence,
    preferred_literal_sequence_iff, spells_append_iff]
  constructor
  · rintro ⟨run, position, ⟨inside, _, spells⟩, behind, isWord, later⟩
    exact ⟨run, behind, inside, ⟨position, spells, isWord⟩, later⟩
  · rintro ⟨run, behind, inside, ⟨position, spells, isWord⟩, later⟩
    exact ⟨run, position, ⟨inside, isWord.ends outside, spells⟩, behind, isWord, later⟩

theorem preferred_run_sequence_iff (rejects : second.Rejects (Next continues)) :
    preferred text (sequence (run starts continues) second) way = some next ↔
      ∃ run position, (IsRun starts continues run (text.drop position) ∧
        Spells text way.position run position) ∧
        preferred text second ⟨position, way.captures⟩ = some next :=
  preferred_sequence_iff detoursTo_run rejects fun middle => by
    simp only [preferred_run_iff, and_assoc]

theorem preferred_captured_run_sequence_iff (rejects : second.Rejects (Next continues)) :
    preferred text (sequence (captured (run starts continues)) second) way = some next ↔
      ∃ run position, (IsRun starts continues run (text.drop position) ∧
        Spells text way.position run position) ∧
        preferred text second ⟨position, way.captures ++ [String.ofList run]⟩ = some next :=
  preferred_sequence_iff detoursTo_run.captured rejects fun middle => by
    simp only [preferred_captured_run_iff, and_assoc]

theorem preferred_edge_sequence_iff :
    preferred text (sequence edge second) way = some next ↔
      isBoundary (before text way.position) (after text way.position) = true ∧
        preferred text second way = some next := by
  rw [preferred_sequence_of_isSingle isSingle_edge, Option.bind_eq_some_iff]
  simp only [preferred_edge_iff]
  constructor
  · rintro ⟨_, ⟨isEdge, rfl⟩, later⟩
    exact ⟨isEdge, later⟩
  · rintro ⟨isEdge, later⟩
    exact ⟨way, ⟨isEdge, rfl⟩, later⟩

/-- The edge of a word behind a captured run of characters of words: the run cannot be cut short. -/
theorem preferred_captured_run_edge_iff (within : ∀ c, starts c = true → continues c = true)
    (inWord : ∀ c, continues c = true → isWordChar c = true) :
    preferred text (sequence (captured (run starts continues)) (sequence edge second)) way =
        some next ↔
      ∃ run position, (IsRun starts continues run (text.drop position) ∧
        Spells text way.position run position) ∧
        isBoundary (before text position) (after text position) = true ∧
        preferred text second ⟨position, way.captures ++ [String.ofList run]⟩ = some next := by
  have whole : preferred text (sequence (captured (run starts continues)) (sequence edge second))
      way = some next ↔
      ∃ run position, (IsRun starts continues run (text.drop position) ∧
        Spells text way.position run position) ∧
        preferred text (sequence edge second) ⟨position, way.captures ++ [String.ofList run]⟩ =
          some next :=
    preferred_sequence_iff (detoursTo_run_inside within).captured (rejects_edge inWord).sequence
      fun middle => by simp only [preferred_captured_run_iff, and_assoc]
  rw [whole]
  simp only [preferred_edge_sequence_iff]

/-! ### Optional characters -/

/-- A character, or nothing. -/
def optional (c : Char) : Pattern :=
  either (literal [c]) (literal [])

variable {c : Char}

theorem preferred_literal_eq_none_iff :
    preferred text (literal [c]) way = none ↔ after text way.position ≠ some c := by
  rw [Option.eq_none_iff_forall_ne_some]
  constructor
  · intro nothing isNext
    obtain ⟨rest, split⟩ := List.head?_eq_some_iff.mp isNext
    refine nothing ⟨way.position + 1, way.captures⟩ (preferred_literal_iff.mpr ⟨⟨?_, rfl⟩, rfl⟩)
    exact split ▸ List.prefix_append [c] rest
  · intro notNext next isNext
    apply notNext
    rw [after, (preferred_literal_iff.mp isNext).1.drop_eq]
    rfl

theorem preferred_optional_iff :
    preferred text (optional c) way = some next ↔
      ∃ piece, ((piece = [c] ∨ piece = [] ∧ after text next.position ≠ some c) ∧
        Spells text way.position piece next.position) ∧ next.captures = way.captures := by
  rw [optional, preferred_either, Option.or_eq_some_iff, preferred_literal_eq_none_iff,
    preferred_literal_iff, preferred_literal_iff]
  constructor
  · rintro (⟨spells, captures⟩ | ⟨notNext, spells, captures⟩)
    · exact ⟨[c], ⟨.inl rfl, spells⟩, captures⟩
    · exact ⟨[], ⟨.inr ⟨rfl, by rw [spells.2]; exact notNext⟩, spells⟩, captures⟩
  · rintro ⟨_, ⟨rfl | ⟨rfl, notNext⟩, spells⟩, captures⟩
    · exact .inl ⟨spells, captures⟩
    · rw [spells.2] at notNext
      exact .inr ⟨notNext, spells, captures⟩

/-- An optional character is left out, though it stands there, on the second try only. -/
theorem detoursTo_optional : (optional c).DetoursTo (Next (· == c)) := by
  intro text way other isWay notFirst
  rw [optional, preferred_either] at notFirst
  rw [optional, ways_either, List.mem_append] at isWay
  rcases isWay with isGiven | isLeftOut
  · rw [(isSingle_literal [c]).preferred_eq isGiven] at notFirst
    exact absurd rfl notFirst
  · have isFirst := (isSingle_literal []).preferred_eq isLeftOut
    have isNext : after text way.position = some c := by
      apply Classical.byContradiction
      intro notNext
      rw [preferred_literal_eq_none_iff.mpr notNext, isFirst] at notFirst
      exact notFirst rfl
    show (after text other.position).any (· == c) = true
    rw [(preferred_literal_iff.mp isFirst).1.2, List.length_nil, Nat.add_zero, isNext]
    exact beq_self_eq_true c

theorem preferred_optional_sequence_iff (rejects : second.Rejects (Next (· == c))) :
    preferred text (sequence (optional c) second) way = some next ↔
      ∃ piece position, ((piece = [c] ∨ piece = [] ∧ after text position ≠ some c) ∧
        Spells text way.position piece position) ∧
        preferred text second ⟨position, way.captures⟩ = some next :=
  preferred_sequence_iff detoursTo_optional rejects fun _ => preferred_optional_iff

/-! ### Alternatives -/

/-- A pattern that nothing matches. -/
def never : Pattern :=
  one fun _ => false

/-- The first of several patterns that matches. -/
def anyOf (patterns : List Pattern) : Pattern :=
  patterns.foldr either never

theorem ways_anyOf (patterns : List Pattern) (way : Way) :
    ways text (anyOf patterns) way = patterns.flatMap fun pattern => ways text pattern way := by
  induction patterns with
  | nil => simp [anyOf, never, ways_one]
  | cons pattern patterns inductionHypothesis =>
      rw [List.flatMap_cons, ← inductionHypothesis]
      rfl

/-- What stands behind alternatives may as well stand behind each of them. -/
theorem matchesAt_sequence_anyOf_iff {patterns : List Pattern} {start stop : Nat}
    {captures : List String} :
    MatchesAt text (sequence (anyOf patterns) second) start captures stop ↔
      MatchesAt text (anyOf (patterns.map fun pattern => sequence pattern second)) start captures
        stop := by
  unfold MatchesAt preferred
  rw [ways_sequence, ways_anyOf, ways_anyOf, List.flatMap_assoc, List.flatMap_map]
  rfl

/-- **The order of alternatives does not matter** where all those that match match alike. -/
theorem matchesAt_anyOf_iff {patterns : List Pattern} {start : Nat}
    (agree : ∀ pattern ∈ patterns, ∀ other ∈ patterns, ∀ captures stop others back,
      MatchesAt text pattern start captures stop → MatchesAt text other start others back →
        captures = others ∧ stop = back) {captures : List String} {stop : Nat} :
    MatchesAt text (anyOf patterns) start captures stop ↔
      ∃ pattern ∈ patterns, MatchesAt text pattern start captures stop := by
  induction patterns with
  | nil => simp [MatchesAt, preferred, ways_anyOf]
  | cons pattern patterns inductionHypothesis =>
      have later := inductionHypothesis fun other isOther another isAnother =>
        agree other (List.mem_cons_of_mem _ isOther) another (List.mem_cons_of_mem _ isAnother)
      simp only [List.mem_cons, exists_eq_or_imp]
      rw [← later]
      show preferred text (either pattern (anyOf patterns)) _ = _ ↔ _
      rw [preferred_either, Option.or_eq_some_iff]
      constructor
      · rintro (first | ⟨_, others⟩)
        · exact .inl first
        · exact .inr others
      · rintro (first | others)
        · exact .inl first
        · cases isFirst : preferred text pattern ⟨start, []⟩ with
          | none => exact .inr ⟨rfl, others⟩
          | some way =>
              left
              obtain ⟨other, isOther, isMatch⟩ := later.mp others
              obtain ⟨rfl, rfl⟩ := agree pattern List.mem_cons_self other
                (List.mem_cons_of_mem _ isOther) _ _ _ _ isFirst isMatch
              rfl

end Parts

/-! ## Readings -/

/-- The names that a grammar and a pattern read in a text, from its start. There is no other
reading, no name is empty, and every match of the pattern captures one name. -/
structure ReadsNames (begins : Grammar String) (pattern : Pattern) (text : List Char)
    (names : List String) : Prop where
  reading : Reading (At text begins) 0 names
  only : ∀ others, Reading (At text begins) 0 others → others = names
  named : ∀ name ∈ names, name ≠ ""
  matched : Reading (MatchesAt text pattern) 0 (names.map fun name => [name])

/-- **A scan and a pattern read the same names**, if they agree at each position. -/
theorem readsNames_scan {shape : (text : List Char) → Option (Taken String text)}
    {begins : Grammar String} {pattern : Pattern} (recognizes : Recognizes shape begins)
    (leaves : LeavesSuffix shape) (named : ∀ place name rest, begins place name rest → name ≠ "")
    (same : ∀ text start captures stop, MatchesAt text pattern start captures stop ↔
      ∃ name, At text begins start name stop ∧ captures = [name])
    (text : List Char) : ReadsNames begins pattern text (scan shape text) := by
  have reading : Reading (At text begins) 0 (scan shape text) :=
    recognizes.reading leaves text 0 (Nat.zero_le _)
  constructor
  · exact reading
  · intro others again
    refine Reading.unique ?_ again reading
    exact fun _ _ _ _ _ => recognizes.at_determined
  · exact reading.forall_mem fun _ _ _ isThere => named _ _ _ isThere.2
  · exact reading.map (same text)

end Pattern

end WebCompat.Text
