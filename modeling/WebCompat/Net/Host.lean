import WebCompat.Net.Domain
import WebCompat.Net.Percent

/-!
Hosts of addresses: names, and numeric addresses of 32 or 128 bits.
-/

namespace WebCompat.Net

open WebCompat.Text (joinWith numberInBase? splitAt)

inductive Host where
  /-- A name, in lower case and with ASCII characters only. -/
  | name (text : List Char)
  /-- A numeric address of 32 bits. -/
  | short (address : Nat)
  /-- A numeric address of eight pieces of 16 bits. -/
  | long (pieces : List Nat)
deriving DecidableEq, Repr

namespace Host

/-! ## Addresses of 32 bits -/

/-- A number in base ten, in base eight after a zero, or in base sixteen after `0x`. -/
def part? : List Char → Option Nat
  | [] => none
  | '0' :: 'x' :: digits | '0' :: 'X' :: digits => numberInBase? 16 0 digits
  | '0' :: digits => numberInBase? 8 0 digits
  | digits => numberInBase? 10 0 digits

/-- The parts of a name, without an empty one at its end. -/
def parts (name : List Char) : List (List Char) :=
  let all := splitAt '.' name
  if all.length > 1 ∧ all.getLast? = some [] then all.dropLast else all

/-- Whether the last part of a name is meant as a number. -/
def endsInNumber (name : List Char) : Bool :=
  match (parts name).getLast? with
  | none | some [] => false
  | some last =>
      last.all Char.isDigit ||
        match last with
        | '0' :: 'x' :: digits | '0' :: 'X' :: digits => (numberInBase? 16 0 digits).isSome
        | _ => false

/-- The address that up to four numbers denote: all but the last are bytes, the last fills
what is left. -/
def ofParts? : (place : Nat) → List Nat → Option Nat
  | _, [] => none
  | place, [last] => if last < Nat.pow 256 (place + 1) then some last else none
  | 0, _ :: _ :: _ => none
  | place + 1, first :: others =>
      if first < 256 then
        (ofParts? place others).map fun rest => first * Nat.pow 256 (place + 1) + rest
      else none

/-- The address of 32 bits that a name denotes. -/
def short? (name : List Char) : Option Nat :=
  ((parts name).mapM part?).bind (ofParts? 3)

/-- The text of an address of 32 bits. -/
def shortText (address : Nat) : List Char :=
  joinWith ['.']
    ([3, 2, 1, 0].map fun place => Nat.toDigits 10 (address / Nat.pow 256 place % 256))

/-! ## Addresses of 128 bits -/

/-- One piece: one to four digits in base sixteen. -/
def piece? (digits : List Char) : Option Nat :=
  if 1 ≤ digits.length ∧ digits.length ≤ 4 then numberInBase? 16 0 digits else none

/-- One byte in base ten, without a needless zero in front. -/
def byte? (digits : List Char) : Option Nat :=
  if digits.isEmpty ∨ (digits.head? = some '0' ∧ digits.length > 1) ∨ digits.length > 3 then none
  else (numberInBase? 10 0 digits).bind fun value => if value < 256 then some value else none

/-- The pieces of a sequence of pieces between colons. The last may be an address of 32
bits with four bytes. -/
def pieces? (texts : List (List Char)) : Option (List Nat) :=
  match texts with
  | [] => some []
  | [last] =>
      match (splitAt '.' last).mapM byte? with
      | some [a, b, c, d] => some [a * 256 + b, c * 256 + d]
      | _ => (piece? last).map fun piece => [piece]
  | first :: others => do return (← piece? first) :: (← pieces? others)

/-- The pieces of a text between colons; no text has none. -/
def run? (text : List Char) : Option (List Nat) :=
  if text.isEmpty then some [] else pieces? (splitAt ':' text)

/-- Splits a text at the first double colon. -/
def splitGap : List Char → Option (List Char × List Char)
  | [] => none
  | ':' :: ':' :: rest => some ([], rest)
  | c :: rest => (splitGap rest).map fun split => (c :: split.1, split.2)

/-- The address of 128 bits that a text denotes: eight pieces, or fewer around a double colon
that stands for at least one zero. -/
def long? (text : List Char) : Option (List Nat) :=
  match splitGap text with
  | none => (run? text).bind fun pieces => if pieces.length = 8 then some pieces else none
  | some (before, after) => do
      -- An address of 32 bits can stand at the end only.
      if before.contains '.' then none
      let front ← run? before
      let back ← run? after
      if front.length + back.length < 8 then
        return front ++ List.replicate (8 - front.length - back.length) 0 ++ back
      else none

/-- The number of zeros at the front. -/
def leadingZeros (pieces : List Nat) : Nat :=
  (pieces.takeWhile (· == 0)).length

/-- Where the first of the longest runs of zeros begins, and its length. -/
def longestZeros : (start : Nat) → List Nat → Nat × Nat
  | _, [] => (0, 0)
  | start, piece :: pieces =>
      let here := leadingZeros (piece :: pieces)
      let later := longestZeros (start + 1) pieces
      if here ≠ 0 ∧ later.2 ≤ here then (start, here) else later

/-- Pieces in base sixteen with colons between. -/
def colonSeparated (pieces : List Nat) : List Char :=
  joinWith [':'] (pieces.map (Nat.toDigits 16))

/-- The text of an address of 128 bits: a run of two zeros or more is left out once. -/
def longText (pieces : List Nat) : List Char :=
  let gap := longestZeros 0 pieces
  if gap.2 < 2 then colonSeparated pieces
  else
    colonSeparated (pieces.take gap.1) ++ [':', ':']
      ++ colonSeparated (pieces.drop (gap.1 + gap.2))

/-! ## Hosts -/

/-- Whether a character may not stand in the name of a host. -/
def isForbidden (c : Char) : Bool :=
  c == '\x00' || c == '\t' || c == '\n' || c == '\r' || c == ' ' || c == '#' || c == '/'
    || c == ':' || c == '<' || c == '>' || c == '?' || c == '@' || c == '[' || c == '\\'
    || c == ']' || c == '^' || c == '|'

/-- A long address between brackets. -/
def bracketed? (text : List Char) : Option Host :=
  if text.getLast? = some ']' then (long? text.dropLast).map .long else none

/-- The host that a text denotes in a scheme with hosts of the usual kinds. -/
def ofText? (text : List Char) : Option Host :=
  match text with
  | [] => none
  | '[' :: rest => bracketed? rest
  | _ =>
      (Domain.asciiName? (percentDecode (Text.bytes text))).bind fun name =>
        if name.isEmpty ∨ name.any fun c => isForbidden c || isControl c || c == '%' then none
        else if endsInNumber name then (short? name).map .short
        else some (.name name)

/-- The host that a text denotes in any other scheme, where names are not interpreted. -/
def ofOpaqueText? (text : List Char) : Option Host :=
  match text with
  | '[' :: rest => bracketed? rest
  | _ =>
      if text.any isForbidden then none else some (.name (percentEncode isControl text))

def chars : Host → List Char
  | .name text => text
  | .short address => shortText address
  | .long pieces => '[' :: longText pieces ++ [']']

end Host

end WebCompat.Net
