/-!
Names of hosts in other scripts, written with ASCII characters: the ASCII characters of a
label first, then for each other character, by increasing code point, how far to go on to
the place where it is inserted. Distances are written in a variable-length notation with 36
digits whose thresholds adapt to the distances before.
-/

namespace WebCompat.Net.Punycode

/-- A digit of the notation: letters for 0 to 25, figures for 26 to 35. -/
def digit (n : Nat) : Char :=
  Char.ofNat (if n < 26 then 0x61 + n else 0x16 + n)

/-- The threshold of the place with the given weight: a digit below it is the last one. -/
def threshold (place bias : Nat) : Nat :=
  min 26 (max 1 (place - bias))

private theorem threshold_bounds (place bias : Nat) :
    1 ≤ threshold place bias ∧ threshold place bias ≤ 26 := by
  unfold threshold
  omega

/-- The digits of a distance, from the place with the given weight on. -/
def digits (bias place distance : Nat) : List Char :=
  let limit := threshold place bias
  if distance < limit then [digit distance]
  else
    digit (limit + (distance - limit) % (36 - limit))
      :: digits bias (place + 36) ((distance - limit) / (36 - limit))
termination_by distance
decreasing_by
  have := threshold_bounds place bias
  have := Nat.div_le_self (distance - threshold place bias) (36 - threshold place bias)
  omega

/-- Divides a distance until it is small, and counts the steps. -/
def reduce (distance steps : Nat) : Nat × Nat :=
  if 455 < distance then reduce (distance / 35) (steps + 1) else (distance, steps)
termination_by distance

/-- The bias after a distance, when the given number of characters are in place. -/
def adapt (distance inPlace : Nat) (isFirst : Bool) : Nat :=
  let damped := if isFirst then distance / 700 else distance / 2
  let reduced := reduce (damped + damped / inPlace) 0
  36 * reduced.2 + 36 * reduced.1 / (reduced.1 + 38)

/-- The state of encoding a label: what was written, the distance so far, the bias, and how
many characters are in place. -/
structure State where
  written : List Char
  distance : Nat
  bias : Nat
  inPlace : Nat

/-- Passes a character while those with code point `current` are inserted. -/
def pass (basic current : Nat) (state : State) (c : Char) : State :=
  if c.toNat < current then { state with distance := state.distance + 1 }
  else if c.toNat = current then
    { written := state.written ++ digits state.bias 36 state.distance
      distance := 0
      bias := adapt state.distance (state.inPlace + 1) (state.inPlace == basic)
      inPlace := state.inPlace + 1 }
  else state

/-- Inserts the characters with the given code points, which increase; those below `next` are
in place. -/
def insertAll (label : List Char) (basic : Nat) : List Nat → Nat → State → State
  | [], _, state => state
  | current :: others, next, state =>
      let skipped :=
        { state with distance := state.distance + (current - next) * (state.inPlace + 1) }
      let passed := label.foldl (pass basic current) skipped
      insertAll label basic others (current + 1)
        { passed with distance := passed.distance + 1 }

/-- A label with ASCII characters only. -/
def encode (label : List Char) : List Char :=
  let basic := label.filter fun c => c.toNat < 0x80
  let others := (label.filter fun c => 0x80 ≤ c.toNat).map Char.toNat
  let increasing := (others.mergeSort fun a b => a ≤ b).eraseDups
  let delimiter := if basic.isEmpty then [] else ['-']
  basic ++ delimiter
    ++ (insertAll label basic.length increasing 0x80 ⟨[], 0, 72, basic.length⟩).written

/-! ## Decoding -/

/-- The value of a digit of the notation; capital letters are as good as small ones. -/
def digitValue? (c : Char) : Option Nat :=
  if c.isLower then some (c.toNat - 0x61)
  else if c.isUpper then some (c.toNat - 0x41)
  else if c.isDigit then some (c.toNat - 0x16)
  else none

/-- The largest weight of a digit. -/
def largestWeight : Nat := Nat.pow 2 32 - 1

/-- Reads the digits of a distance, from the place with the given weights on, and adds it to
`before`. -/
def distance? (bias place weight before : Nat) : List Char → Option (Nat × List Char)
  | [] => none
  | c :: rest =>
      match digitValue? c with
      | none => none
      | some value =>
          let limit := threshold place bias
          if value < limit then some (before + value * weight, rest)
          else if largestWeight < weight * (36 - limit) then none
          else
            distance? bias (place + 36) (weight * (36 - limit)) (before + value * weight) rest

/-- Reading a distance takes at least one digit. -/
theorem length_lt_of_distance? {bias place weight before distance : Nat}
    {text rest : List Char}
    (read : distance? bias place weight before text = some (distance, rest)) :
    rest.length < text.length := by
  induction text generalizing place weight before with
  | nil => simp [distance?] at read
  | cons c tail inductionHypothesis =>
      simp only [distance?] at read
      split at read
      · simp at read
      · split at read
        · simp only [Option.some.injEq, Prod.mk.injEq] at read
          simp [← read.2]
        · split at read
          · simp at read
          · exact Nat.lt_succ_of_lt (inductionHypothesis read)

/-- Reads distances and inserts a character at the end of each. Code points below `current` are
in place, and so are those equal to it before the place `start`. -/
def insertDecoded (basic bias current start : Nat) (label text : List Char) :
    Option (List Char) :=
  match text with
  | [] => some label
  | c :: digits =>
      match _read : distance? bias 36 1 start (c :: digits) with
      | none => none
      | some (distance, rest) =>
          let inPlace := label.length + 1
          let next := current + distance / inPlace
          if next.isValidChar then
            insertDecoded basic (adapt (distance - start) inPlace (label.length == basic)) next
              (distance % inPlace + 1)
              (label.insertIdx (distance % inPlace) (Char.ofNat next)) rest
          else none
termination_by text.length
decreasing_by exact length_lt_of_distance? _read

/-- The label that an ASCII form denotes: the characters before the last hyphen are in place,
unless that hyphen comes first, where it is no digit either. -/
def decode? (text : List Char) : Option (List Char) :=
  let back := text.reverse
  let basic := ((back.dropWhile (· != '-')).drop 1).reverse
  if text.any fun c => 0x80 ≤ c.toNat then none
  else if basic.isEmpty then insertDecoded 0 72 0x80 0 [] text
  else
    insertDecoded basic.length 72 0x80 0 basic (back.takeWhile (· != '-')).reverse

end WebCompat.Net.Punycode
