import WebCompat.Number.Limit

/-!
Spans of time in nanoseconds. There is a longest one, and arithmetic stops there.
-/

namespace WebCompat

/-- The number of nanoseconds of the longest span: seconds of 64 bits, and nanoseconds short
of one more. -/
def longestNanoseconds : Nat := Number.largest64 * 1000000000 + 999999999

/-- A span of time. -/
structure Duration where
  nanoseconds : Nat
  bounded : nanoseconds ≤ longestNanoseconds
deriving DecidableEq

namespace Duration

/-- The span of a number of nanoseconds, or the longest one. -/
def ofNanoseconds (n : Nat) : Duration :=
  ⟨min n longestNanoseconds, Nat.min_le_right n longestNanoseconds⟩

def ofMilliseconds (n : Nat) : Duration :=
  ofNanoseconds (n * 1000000)

def ofSeconds (n : Nat) : Duration :=
  ofNanoseconds (n * 1000000000)

/-- A multiple of a span, or the longest one. -/
def times (duration : Duration) (factor : Nat) : Duration :=
  ofNanoseconds (duration.nanoseconds * factor)

def shorter (a b : Duration) : Duration :=
  if b.nanoseconds ≤ a.nanoseconds then b else a

end Duration

end WebCompat
