import WebCompat.Json.Reader
import WebCompat.Number.Limit

/-!
Numbers in a document: their form, and the number that a form denotes. The form is digits
without a needless zero in front, then a fraction and an exponent if there are any. Whole
numbers of 64 bits are kept as they are, all others as floating point; digits beyond 64 bits
only move the point.
-/

namespace WebCompat.Json

open WebCompat.Text (Taken)

/-- A number as it is written, after its sign. -/
structure Numeral where
  whole : List Char
  fraction : List Char
  exponent : Option (Bool × List Char)

/-- Takes one or more digits. -/
def digits (atEnd : Cause) : Reader (List Char) := fun text =>
  match text with
  | [] => .error (.next atEnd [])
  | c :: rest =>
      if c.isDigit then
        .ok ⟨c :: rest.takeWhile Char.isDigit, rest.dropWhile Char.isDigit,
          Text.length_dropWhile_lt_cons⟩
      else .error (.next .invalidNumber (c :: rest))

/-- Takes the digits before the point: a zero stands alone. -/
def wholeDigits (atEnd : Cause) : Reader (List Char) := fun text =>
  match digits atEnd text with
  | .error fault => .error fault
  | .ok taken =>
      match text, taken.value with
      | _ :: rest, '0' :: _ :: _ => .error (.next .invalidNumber rest)
      | _, _ => .ok taken

/-- Takes an exponent, from after its letter: a sign if there is one, and digits. The value
tells whether the exponent is negative. -/
def exponentDigits (atEnd : Cause) : Reader (Bool × List Char) := fun text =>
  match text with
  | '+' :: rest =>
      match digits atEnd rest with
      | .error fault => .error fault
      | .ok taken => .ok ((taken.map (false, ·)).widen Text.length_le_cons)
  | '-' :: rest =>
      match digits atEnd rest with
      | .error fault => .error fault
      | .ok taken => .ok ((taken.map (true, ·)).widen Text.length_le_cons)
  | other =>
      match digits atEnd other with
      | .error fault => .error fault
      | .ok taken => .ok (taken.map (false, ·))

/-- What follows the digits before the point, if anything does; nothing may be used. -/
structure Continued (α : Type) (text : List Char) where
  value : α
  rest : List Char
  notLonger : rest.length ≤ text.length

/-- Takes a fraction if a point comes next. -/
def fraction (atEnd : Cause) (text : List Char) : Except Fault (Continued (List Char) text) :=
  match text with
  | '.' :: rest =>
      match digits atEnd rest with
      | .error fault => .error fault
      | .ok taken =>
          .ok ⟨taken.value, taken.rest, by
            have := taken.shorter
            simp only [List.length_cons]
            omega⟩
  | other => .ok ⟨[], other, Nat.le_refl _⟩

/-- Takes an exponent if its letter comes next. -/
def exponent (atEnd : Cause) (text : List Char) :
    Except Fault (Continued (Option (Bool × List Char)) text) :=
  match text with
  | [] => .ok ⟨none, [], Nat.le_refl _⟩
  | c :: rest =>
      if c = 'e' || c = 'E' then
        match exponentDigits atEnd rest with
        | .error fault => .error fault
        | .ok taken =>
            .ok ⟨some taken.value, taken.rest, by
              have := taken.shorter
              simp only [List.length_cons]
              omega⟩
      else .ok ⟨none, c :: rest, Nat.le_refl _⟩

/-- Takes a number, from after its sign. A document that ends too early has the given
fault. -/
def numeral (atEnd : Cause) : Reader Numeral := fun text =>
  match wholeDigits atEnd text with
  | .error fault => .error fault
  | .ok whole =>
      match fraction atEnd whole.rest with
      | .error fault => .error fault
      | .ok part =>
          match exponent atEnd part.rest with
          | .error fault => .error fault
          | .ok power =>
              .ok ⟨⟨whole.value, part.value, power.value⟩, power.rest, by
                have := whole.shorter
                have := part.notLonger
                have := power.notLonger
                omega⟩

def digitValue (c : Char) : Nat :=
  c.toNat - 48

/-- Appends digits to a number as long as it stays within a limit; the digits from the first
one that does not fit are left. -/
def absorb (limit value : Nat) : List Char → Nat × List Char
  | [] => (value, [])
  | c :: rest =>
      if value * 10 + digitValue c ≤ limit then absorb limit (value * 10 + digitValue c) rest
      else (value, c :: rest)

namespace Numeral

/-- The digits that carry weight, as a number, and the power of ten that it is to be
multiplied by when the exponent is left out. -/
def significand (n : Numeral) : Nat × Int :=
  let whole := absorb Number.largest64 0 n.whole
  let all := absorb Number.largest64 whole.1 n.fraction
  (all.1, (whole.2.length : Int) - ((n.fraction.length : Int) - all.2.length))

/-- The digits of the exponent behind the one with which it passes its limit. -/
def unreadDigits (n : Numeral) : List Char :=
  match n.exponent with
  | some (_, digits) => (absorb Number.largestSigned32 0 digits).2.drop 1
  | none => []

/-- The magnitude that a number with a fraction, an exponent or too many digits denotes,
unless it is out of range. -/
def magnitude? (n : Numeral) : Option Number.Magnitude :=
  let start := n.significand
  match n.exponent with
  | none => (Number.Magnitude.ofNat start.1).scale? start.2
  | some (isNegative, digits) =>
      let power := absorb Number.largestSigned32 0 digits
      if power.2.isEmpty then
        (Number.Magnitude.ofNat start.1).scale?
          (if isNegative then start.2 - power.1 else start.2 + power.1)
      else if start.1 = 0 ∨ isNegative then some .zero
      else none

/-- Whether a number is written with digits before the point alone, few enough to be kept
as they are. -/
def isWhole (n : Numeral) : Bool :=
  n.fraction.isEmpty && n.exponent.isNone && (absorb Number.largest64 0 n.whole).2.isEmpty

/-- The number denoted, unless it is out of range. A minus sign makes a whole number
floating if it is zero or does not fit into 64 bits. -/
def number? (isNegative : Bool) (n : Numeral) : Option Number :=
  if n.isWhole then
    let value := n.significand.1
    if !isNegative then some (.natural value)
    else if value ≠ 0 ∧ value ≤ Number.largestSigned64 + 1 then some (.negative (value - 1))
    else some (.real true (Number.Magnitude.ofNat value))
  else n.magnitude?.map (.real isNegative)

end Numeral

/-- Takes a number, from after its sign. -/
def number (isNegative : Bool) : Reader Number := fun text =>
  match numeral .endInValue text with
  | .error fault => .error fault
  | .ok taken =>
      match taken.value.number? isNegative with
      | some value => .ok ⟨value, taken.rest, taken.shorter⟩
      | none => .error (.before .numberOutOfRange (taken.value.unreadDigits ++ taken.rest))

/-- Passes over a number, from after its sign. -/
def numberForm : Reader Unit :=
  Reader.map (fun _ => ()) (numeral .invalidNumber)

end WebCompat.Json
