import WebCompat.Number.Binary

/-!
The shortest decimal that reads back as a given magnitude, and its text: positional where
the point falls within or near the digits, scientific elsewhere.
-/

namespace WebCompat.Number

/-- The decimal `digits · 10 ^ exponent`. -/
structure Decimal where
  digits : Nat
  exponent : Int
deriving DecidableEq, Repr

namespace Decimal

/-- A decimal as a quotient of natural numbers. -/
def ratio (x : Decimal) : Nat × Nat :=
  (x.digits * Nat.pow 10 x.exponent.toNat, Nat.pow 10 (-x.exponent).toNat)

/-- Moves trailing zeros of the digits into the exponent; at most `fuel` of them. -/
def trim : Nat → Decimal → Decimal
  | 0, x => x
  | fuel + 1, x =>
      if x.digits ≠ 0 ∧ x.digits % 10 = 0 then trim fuel ⟨x.digits / 10, x.exponent + 1⟩ else x

end Decimal

def ratioLe (a b : Nat × Nat) : Bool :=
  a.1 * b.2 ≤ b.1 * a.2

def ratioLt (a b : Nat × Nat) : Bool :=
  a.1 * b.2 < b.1 * a.2

def ratioDistance (a b : Nat × Nat) : Nat × Nat :=
  ((a.1 * b.2 - b.1 * a.2) + (b.1 * a.2 - a.1 * b.2), a.2 * b.2)

namespace Magnitude

/-- Half way to the next smaller magnitude. Below a power of two the gap is half as wide. -/
def lowerBound (x : Magnitude) : Nat × Nat :=
  let quarters :=
    if x.mantissa = leastFull ∧ leastExponent < x.exponent then 4 * x.mantissa - 1
    else 4 * x.mantissa - 2
  (Magnitude.mk quarters (x.exponent - 2)).ratio

/-- Half way to the next larger magnitude. -/
def upperBound (x : Magnitude) : Nat × Nat :=
  (Magnitude.mk (4 * x.mantissa + 2) (x.exponent - 2)).ratio

/-- Whether a decimal reads back as the magnitude: it lies between the bounds, which
themselves belong to an even mantissa. -/
def readsBack (x : Magnitude) (d : Decimal) : Bool :=
  if x.mantissa % 2 = 0 then ratioLe x.lowerBound d.ratio && ratioLe d.ratio x.upperBound
  else ratioLt x.lowerBound d.ratio && ratioLt d.ratio x.upperBound

/-- The decimal `n · 10 ^ exponent` with the largest `n` that is not above the magnitude. -/
def gridBelow (x : Magnitude) (exponent : Int) : Decimal :=
  ⟨x.ratio.1 * Nat.pow 10 (-exponent).toNat / (x.ratio.2 * Nat.pow 10 exponent.toNat), exponent⟩

/-- The decimal nearest to the magnitude among its two neighbours on a decimal grid that
read back. -/
def onGrid? (x : Magnitude) (exponent : Int) : Option Decimal :=
  let below := x.gridBelow exponent
  let above : Decimal := ⟨below.digits + 1, exponent⟩
  if x.readsBack below then
    if x.readsBack above
        && ratioLt (ratioDistance above.ratio x.ratio) (ratioDistance below.ratio x.ratio) then
      some above
    else some below
  else if x.readsBack above then some above
  else none

/-- Tries finer and finer grids, `fuel` of them, from the given exponent downwards. -/
def firstOnGrid (x : Magnitude) : Nat → Int → Decimal
  | 0, exponent => x.gridBelow exponent
  | fuel + 1, exponent => (x.onGrid? exponent).getD (firstOnGrid x fuel (exponent - 1))

/-- The number of decimal digits before the point of a quotient, roughly: never too few. -/
def decimalWidth (num den : Nat) : Int :=
  (Nat.toDigits 10 num).length - (Nat.toDigits 10 den).length + 1

/-- The shortest decimal that reads back as the magnitude. -/
def shortest (x : Magnitude) : Decimal :=
  if x.mantissa = 0 then ⟨0, 0⟩
  else (firstOnGrid x 20 (decimalWidth x.ratio.1 x.ratio.2)).trim 20

end Magnitude

def zeros (n : Nat) : String :=
  String.ofList (List.replicate n '0')

/-- The text of a decimal: positional from 0.00001 up to below 10 ^ 16, always with a point
and a digit after it, and otherwise in scientific form, with a sign before the exponent. -/
def Decimal.text (x : Decimal) : String :=
  let digits := Nat.toDigits 10 x.digits
  let point : Int := digits.length + x.exponent
  if x.digits = 0 then "0.0"
  else if 0 ≤ x.exponent ∧ point ≤ 16 then
    String.ofList digits ++ zeros x.exponent.toNat ++ ".0"
  else if 0 < point ∧ point ≤ 16 then
    String.ofList (digits.take point.toNat) ++ "." ++ String.ofList (digits.drop point.toNat)
  else if -5 < point ∧ point ≤ 0 then
    "0." ++ zeros (-point).toNat ++ String.ofList digits
  else
    let mantissa :=
      match digits with
      | first :: second :: more => String.ofList (first :: '.' :: second :: more)
      | short => String.ofList short
    mantissa ++ (if 0 < point then "e+" else "e") ++ toString (point - 1)

end WebCompat.Number
