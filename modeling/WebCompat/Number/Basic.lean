import WebCompat.Number.Shortest

/-!
Numbers as a text format with 64-bit integers keeps them: whole numbers exactly where they
fit, everything else as binary floating point.
-/

namespace WebCompat

/-- A number that was read or is to be written. -/
inductive Number where
  /-- A whole number from zero on. -/
  | natural (n : Nat)
  /-- The whole number `-(n + 1)`. -/
  | negative (n : Nat)
  /-- A floating-point number, by its sign and its magnitude. -/
  | real (isNegative : Bool) (magnitude : Number.Magnitude)
deriving DecidableEq, Repr

def Number.text : Number → String
  | .natural n => toString n
  | .negative n => "-" ++ toString (n + 1)
  | .real isNegative magnitude => (if isNegative then "-" else "") ++ magnitude.shortest.text

end WebCompat
