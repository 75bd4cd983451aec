/-!
Sets of code points written as ascending, disjoint, closed intervals, the form in
which character properties are tabulated.
-/

namespace WebCompat.Text

/-- Ascending, disjoint, closed intervals of code points. -/
abbrev Ranges := List (Nat × Nat)

/-- Whether a code point lies in one of the intervals. The search stops at the first
interval that begins above it. -/
def Ranges.contains : Ranges → Nat → Bool
  | [], _ => false
  | (low, high) :: rest, n => if n < low then false else n ≤ high || Ranges.contains rest n

end WebCompat.Text
