import Mathlib.Algebra.Group.Nat.Defs
import Mathlib.Order.Monotone.Basic
import WebCompat.Lookup.Settings

/-!
Delays between the retries of a lookup: the first delay doubled once for each retry, up to the
longest delay. Spans of time end at the longest span, and the factor ends at the largest one. The
first end never shows, because no longest delay lies beyond it. The second one does: a first delay
that is small against the longest one stops growing before it gets there.

Owns: delays reckoned without a bound on spans; and which delays are those that doubling gives.
-/

namespace WebCompat

/-! ## Spans of time -/

namespace Duration

private theorem nanoseconds_shorter (a b : Duration) :
    (a.shorter b).nanoseconds = min a.nanoseconds b.nanoseconds := by
  unfold shorter
  split
  · rename_i isLess
    exact (Nat.min_eq_right isLess).symm
  · rename_i isMore
    exact (Nat.min_eq_left (Nat.le_of_not_le isMore)).symm

/-- Of a multiple and a span, the shorter one is as if multiples did not end at the longest span. -/
theorem nanoseconds_times_shorter (duration bound : Duration) (factor : Nat) :
    ((duration.times factor).shorter bound).nanoseconds =
      min (duration.nanoseconds * factor) bound.nanoseconds := by
  have inRange : bound.nanoseconds ≤ longestNanoseconds := bound.bounded
  have ends : (duration.times factor).nanoseconds =
      min (duration.nanoseconds * factor) longestNanoseconds := rfl
  rw [nanoseconds_shorter, ends]
  omega

end Duration

namespace Settings

variable (settings : Settings)

/-! ## Factors -/

/-- Doubling passes the largest factor at retry 32, counted from zero. -/
theorem two_pow_le_largestFactor_iff {attempt : Nat} :
    2 ^ attempt ≤ largestFactor ↔ attempt < 32 := by
  have next : largestFactor + 1 = 2 ^ 32 := rfl
  rw [← Nat.lt_succ_iff, Nat.succ_eq_add_one, next]
  exact Nat.pow_lt_pow_iff_right (by decide)

/-- The factor of a retry, as a minimum. -/
theorem factor_eq_min (attempt : Nat) :
    (if attempt < 32 then Nat.pow 2 attempt else largestFactor) =
      min (2 ^ attempt) largestFactor := by
  split
  · rename_i small
    exact (Nat.min_eq_left (two_pow_le_largestFactor_iff.mpr small)).symm
  · rename_i large
    have passed := mt two_pow_le_largestFactor_iff.mp large
    exact (Nat.min_eq_right (Nat.le_of_not_le passed)).symm

/-! ## Delays -/

/-- The first delay doubled once for each retry, or the longest delay where that is less, in
nanoseconds without any bound. -/
def doubledDelay (attempt : Nat) : Nat :=
  min settings.maxBackoff.nanoseconds (settings.initialBackoff.nanoseconds * 2 ^ attempt)

/-- Where the factor does not reach the power of two, the delay is that of the largest factor. -/
theorem nanoseconds_backoffDelay (attempt : Nat) :
    (settings.backoffDelay attempt).nanoseconds =
      min settings.maxBackoff.nanoseconds
        (settings.initialBackoff.nanoseconds * min (2 ^ attempt) largestFactor) := by
  unfold backoffDelay
  rw [Duration.nanoseconds_times_shorter, factor_eq_min, Nat.min_comm]

/-- A delay is never longer than doubling makes it. -/
theorem backoffDelay_le_doubledDelay (attempt : Nat) :
    (settings.backoffDelay attempt).nanoseconds ≤ settings.doubledDelay attempt := by
  have lessFactor : min (2 ^ attempt) largestFactor ≤ 2 ^ attempt := Nat.min_le_left _ _
  have lessProduct := Nat.mul_le_mul_left settings.initialBackoff.nanoseconds lessFactor
  rw [nanoseconds_backoffDelay, doubledDelay]
  omega

/-- A delay falls behind exactly if its factor does, and neither the longest delay nor a first
delay of zero hides it. -/
theorem backoffDelay_eq_doubledDelay_iff (attempt : Nat) :
    (settings.backoffDelay attempt).nanoseconds = settings.doubledDelay attempt ↔
      attempt < 32 ∨ settings.initialBackoff.nanoseconds = 0 ∨
        settings.maxBackoff.nanoseconds ≤ settings.initialBackoff.nanoseconds * largestFactor := by
  rw [nanoseconds_backoffDelay, doubledDelay, ← two_pow_le_largestFactor_iff]
  by_cases inRange : 2 ^ attempt ≤ largestFactor
  · rw [Nat.min_eq_left inRange]
    exact iff_of_true rfl (Or.inl inRange)
  · have passed : largestFactor < 2 ^ attempt := Nat.lt_of_not_le inRange
    rw [Nat.min_eq_right (Nat.le_of_lt passed)]
    rcases Nat.eq_zero_or_pos settings.initialBackoff.nanoseconds with isZero | isPositive
    · rw [isZero, Nat.zero_mul, Nat.zero_mul]
      exact iff_of_true rfl (Or.inr (Or.inl rfl))
    · have lessProduct := Nat.mul_lt_mul_of_pos_left passed isPositive
      constructor
      · intro same
        exact Or.inr (Or.inr (by omega))
      · intro hidden
        omega

/-- A later retry waits at least as long. -/
theorem backoffDelay_monotone :
    Monotone fun attempt => (settings.backoffDelay attempt).nanoseconds := by
  intro attempt later isLater
  have morePower : 2 ^ attempt ≤ 2 ^ later := Nat.pow_le_pow_right (by decide) isLater
  have moreFactor : min (2 ^ attempt) largestFactor ≤ min (2 ^ later) largestFactor := by omega
  have moreProduct := Nat.mul_le_mul_left settings.initialBackoff.nanoseconds moreFactor
  show (settings.backoffDelay attempt).nanoseconds ≤ (settings.backoffDelay later).nanoseconds
  rw [nanoseconds_backoffDelay, nanoseconds_backoffDelay]
  omega

/-- **Delays double up to the largest factor.** A delay is the least of the longest delay and the
first delay times the power of two or the largest factor, reckoned without a bound. Delays never
decrease, are never longer than the longest one and never longer than doubling makes them; and they
are what doubling makes them exactly for the first thirty-two retries, for a first delay of zero,
and where the longest delay is reached with the largest factor. -/
theorem backoffDelay_doubles_up_to_largest_factor :
    (∀ attempt, (settings.backoffDelay attempt).nanoseconds =
      min settings.maxBackoff.nanoseconds
        (settings.initialBackoff.nanoseconds * min (2 ^ attempt) (2 ^ 32 - 1))) ∧
      (∀ attempt, (settings.backoffDelay attempt).nanoseconds = settings.doubledDelay attempt ↔
        attempt < 32 ∨ settings.initialBackoff.nanoseconds = 0 ∨
          settings.maxBackoff.nanoseconds ≤
            settings.initialBackoff.nanoseconds * (2 ^ 32 - 1)) ∧
      (Monotone fun attempt => (settings.backoffDelay attempt).nanoseconds) ∧
      ∀ attempt, (settings.backoffDelay attempt).nanoseconds ≤ settings.maxBackoff.nanoseconds ∧
        (settings.backoffDelay attempt).nanoseconds ≤ settings.doubledDelay attempt := by
  refine ⟨settings.nanoseconds_backoffDelay, settings.backoffDelay_eq_doubledDelay_iff,
    settings.backoffDelay_monotone, ?_⟩
  intro attempt
  refine ⟨?_, settings.backoffDelay_le_doubledDelay attempt⟩
  rw [nanoseconds_backoffDelay]
  exact Nat.min_le_left _ _

/-- A first delay of a millisecond is not doubled any more by the thirty-third retry, although the
longest delay of 2 ^ 32 milliseconds is not reached yet. -/
theorem backoffDelay_of_millisecond_falls_behind :
    let settings := { default with
      initialBackoff := .ofMilliseconds 1
      maxBackoff := .ofMilliseconds 4294967296 }
    (settings.backoffDelay 32).nanoseconds = 4294967295000000 ∧
      settings.doubledDelay 32 = 4294967296000000 := by
  decide

end Settings

end WebCompat
