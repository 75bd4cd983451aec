/-!
Binary floating point with 53 bits, in exact arithmetic: rounding of a quotient to the
nearest representable magnitude, and the products and quotients that build on it.
Ties go to the even neighbour, tiny results lose bits gradually, and results that are too
large have no magnitude at all.
-/

namespace WebCompat.Number

/-- The magnitude `mantissa · 2 ^ exponent`. -/
structure Magnitude where
  mantissa : Nat
  exponent : Int
deriving DecidableEq, Repr

namespace Magnitude

/-- The least exponent: magnitudes are multiples of `2 ^ (-1074)`. -/
def leastExponent : Int := -1074

/-- The largest exponent of a mantissa of 53 bits. -/
def greatestExponent : Int := 971

/-- The least mantissa of 53 bits. -/
def leastFull : Nat := 4503599627370496

def zero : Magnitude := ⟨0, leastExponent⟩

/-- A magnitude as a quotient of natural numbers. -/
def ratio (x : Magnitude) : Nat × Nat :=
  (x.mantissa * Nat.pow 2 x.exponent.toNat, Nat.pow 2 (-x.exponent).toNat)

/-- A quotient rounded to the nearest natural number, a half to the even one. -/
def nearest (num den : Nat) : Nat :=
  let whole := num / den
  let twice := 2 * (num % den)
  if twice < den || (twice == den && whole % 2 == 0) then whole else whole + 1

/-- The quotient `num / den` counted in units of `2 ^ exponent`, as a quotient. -/
def inUnits (num den : Nat) (exponent : Int) : Nat × Nat :=
  (num * Nat.pow 2 (-exponent).toNat, den * Nat.pow 2 exponent.toNat)

/-- The exponent at which `num / den` has a mantissa of 53 bits, or the least one. -/
def exponentOf (num den : Nat) : Int :=
  let guess : Int := (num.log2 : Int) - (den.log2 : Int) - 52
  let units := inUnits num den guess
  max leastExponent (if units.1 < leastFull * units.2 then guess - 1 else guess)

/-- The magnitude nearest to `num / den`, unless that is too large. -/
def ofRatio? (num den : Nat) : Option Magnitude :=
  if num = 0 then some zero
  else
    let exponent := exponentOf num den
    let units := inUnits num den exponent
    let mantissa := nearest units.1 units.2
    let rounded : Magnitude :=
      if mantissa = 2 * leastFull then ⟨leastFull, exponent + 1⟩ else ⟨mantissa, exponent⟩
    if rounded.exponent ≤ greatestExponent then some rounded else none

/-- The magnitude nearest to a natural number of at most 64 bits. -/
def ofNat (n : Nat) : Magnitude :=
  (ofRatio? n 1).getD zero

/-- The rounded product, unless it is too large. -/
def mul? (x y : Magnitude) : Option Magnitude :=
  ofRatio? (x.ratio.1 * y.ratio.1) (x.ratio.2 * y.ratio.2)

/-- The rounded quotient. -/
def div (x y : Magnitude) : Magnitude :=
  (ofRatio? (x.ratio.1 * y.ratio.2) (x.ratio.2 * y.ratio.1)).getD zero

/-- The magnitude nearest to a power of ten up to `10 ^ 308`. -/
def powerOfTen (n : Nat) : Magnitude :=
  (ofRatio? (Nat.pow 10 n) 1).getD zero

/-- The power of ten by which larger ones are approached. -/
def largestPower : Nat := 308

/-- The magnitude `significand · 10 ^ exponent`, reached by one rounded multiplication or by
rounded divisions; none if it is too large. -/
def scale? (x : Magnitude) (exponent : Int) : Option Magnitude :=
  if exponent.natAbs ≤ largestPower then
    if 0 ≤ exponent then x.mul? (powerOfTen exponent.natAbs)
    else some (x.div (powerOfTen exponent.natAbs))
  else if x.mantissa = 0 then some x
  else if 0 ≤ exponent then none
  else scale? (x.div (powerOfTen largestPower)) (exponent + largestPower)
termination_by exponent.natAbs
decreasing_by
  have positive : largestPower = 308 := rfl
  omega

end Magnitude

end WebCompat.Number
