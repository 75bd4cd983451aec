/-!
Results of steps that may fail. Steps one after another have a result exactly if each of them has
one, whatever the ways to fail are.
-/

namespace WebCompat

variable {ε α β : Type}

theorem map_eq_ok_iff {result : Except ε α} {f : α → β} {value : β} :
    result.map f = .ok value ↔ ∃ before, result = .ok before ∧ f before = value := by
  cases result <;> simp [Except.map]

/-- Two steps one after the other succeed together. -/
theorem bind_eq_ok_iff {result : Except ε α} {next : α → Except ε β} {value : β} :
    (result >>= next) = .ok value ↔ ∃ before, result = .ok before ∧ next before = .ok value := by
  cases result <;> simp [bind, Except.bind]

theorem eq_ok_of_toOption {result : Except ε α} {value : α}
    (isValue : result.toOption = some value) : result = .ok value := by
  cases result with
  | error fault => cases isValue
  | ok other => exact congrArg Except.ok (Option.some.inj isValue)

end WebCompat
