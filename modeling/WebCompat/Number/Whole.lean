/-!
Whole numbers in decimal notation, up to a limit: at least one digit, with a plus sign in
front if one likes.
-/

namespace WebCompat.Number

/-- Why a text is not a whole number. -/
inductive WholeFault where
  | empty
  | invalidDigit
  | tooLarge
deriving DecidableEq, Repr

def WholeFault.message : WholeFault → String
  | .empty => "cannot parse integer from empty string"
  | .invalidDigit => "invalid digit found in string"
  | .tooLarge => "number too large to fit in target type"

/-- Appends digits to a number. The first character that is no digit and the first digit with
which the number passes the limit are faults, whichever comes first. -/
def appendDigits (limit value : Nat) : List Char → Except WholeFault Nat
  | [] => .ok value
  | c :: rest =>
      if !c.isDigit then .error .invalidDigit
      else
        let next := value * 10 + (c.toNat - 0x30)
        if next ≤ limit then appendDigits limit next rest else .error .tooLarge

/-- The whole number that a text denotes. -/
def whole (limit : Nat) (text : List Char) : Except WholeFault Nat :=
  match text with
  | [] => .error .empty
  | ['+'] => .error .invalidDigit
  | '+' :: digits => appendDigits limit 0 digits
  | digits => appendDigits limit 0 digits

end WebCompat.Number
