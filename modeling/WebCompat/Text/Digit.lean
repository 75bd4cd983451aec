/-!
Digits up to base sixteen.
-/

namespace WebCompat.Text

/-- The value of a digit in base sixteen, in either case. -/
def hexDigit? (c : Char) : Option Nat :=
  let n := c.toNat
  if 0x30 ≤ n ∧ n ≤ 0x39 then some (n - 0x30)
  else if 0x41 ≤ n ∧ n ≤ 0x46 then some (n - 0x41 + 10)
  else if 0x61 ≤ n ∧ n ≤ 0x66 then some (n - 0x61 + 10)
  else none

/-- The value of digits in a base of at most sixteen, behind a number that is already read;
none if a character is no digit of the base. -/
def numberInBase? (base value : Nat) : List Char → Option Nat
  | [] => some value
  | c :: rest =>
      match hexDigit? c with
      | some digit => if digit < base then numberInBase? base (value * base + digit) rest else none
      | none => none

end WebCompat.Text
