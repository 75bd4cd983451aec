import Mathlib.Data.List.TakeWhile
import WebCompat.Lookup.Client
import WebCompat.Proofs.Number.Whole
import WebCompat.Proofs.Text.Utf8

/-!
Which environments give settings. A variable may be missing or hold bytes that are no text; what
counts against it is a text that cannot be used.
-/

namespace WebCompat.Settings

/-! ## Variables -/

/-- Whether a variable is set to a text. -/
def IsSetTo (environment : Environment) (name text : String) : Prop :=
  environment name = some (Text.stringBytes text)

/-- Whether the variable of the endpoint is set to white space only. -/
def HasBlankEndpoint (environment : Environment) : Prop :=
  ∃ text, IsSetTo environment endpointVariable text ∧ ∀ c ∈ text.toList, Text.isBlank c = true

/-- Whether a variable is set to a text that denotes no number within a limit, the white space at
its ends apart. -/
def HasNoNumber (environment : Environment) (name : String) (limit : Nat) : Prop :=
  ∃ text, IsSetTo environment name text ∧
    ∀ value, value ≤ limit → ¬ Number.Denotes (Text.trimBlank text.toList) value

/-- Whether some variable is set to a text that cannot be used. -/
def IsUnusable (environment : Environment) : Prop :=
  HasBlankEndpoint environment ∨ HasNoNumber environment timeoutVariable Number.largest64 ∨
    HasNoNumber environment pacingVariable Number.largest64 ∨
    HasNoNumber environment retriesVariable Number.largest32

variable {environment : Environment}

theorem textOf_eq_some_iff {name text : String} :
    textOf environment name = some text ↔ IsSetTo environment name text := by
  unfold textOf IsSetTo
  simp only [Option.bind_eq_some_iff, Text.ofBytes?_eq_some_iff, exists_eq_right]

theorem isEmpty_trim_iff (text : String) :
    (Text.trim text).isEmpty = true ↔ ∀ c ∈ text.toList, Text.isBlank c = true := by
  have isOuter : (Text.trim text).isEmpty = true ↔
      ∀ c ∈ text.toList.dropWhile Text.isBlank, Text.isBlank c = true := by
    simp [Text.trim, Text.trimBlank, Text.trimWhile, List.dropWhile_eq_nil_iff]
  rw [isOuter]
  constructor
  · intro restIsBlank c member
    rw [← List.takeWhile_append_dropWhile (p := Text.isBlank) (l := text.toList)] at member
    rcases List.mem_append.mp member with inFront | inRest
    · exact List.mem_takeWhile_imp inFront
    · exact restIsBlank c inRest
  · exact fun isBlank c member => isBlank c ((List.dropWhile_sublist _).subset member)

/-- An endpoint can be used unless it is set to a blank text. -/
theorem exists_endpointOf_iff :
    (∃ endpoint, endpointOf environment = .ok endpoint) ↔ ¬ HasBlankEndpoint environment := by
  unfold endpointOf HasBlankEndpoint
  simp only [← textOf_eq_some_iff]
  cases textOf environment endpointVariable with
  | none => simp
  | some text =>
      simp only [Option.some.injEq, exists_eq_left', ← isEmpty_trim_iff]
      split
      · rename_i isEmpty
        simp [isEmpty]
      · rename_i notEmpty
        simp [notEmpty]

/-- A number can be used unless its variable is set to a text that denotes none within the limit. -/
theorem exists_numberOf_iff {name : String} {limit : Nat} :
    (∃ number, numberOf environment name limit = .ok number) ↔
      ¬ HasNoNumber environment name limit := by
  unfold numberOf HasNoNumber
  simp only [← textOf_eq_some_iff]
  cases textOf environment name with
  | none => simp
  | some text =>
      simp only [Option.some.injEq, exists_eq_left']
      split
      · rename_i value isRead
        have denotes := Number.whole_eq_ok_iff.mp isRead
        exact iff_of_true ⟨some value, rfl⟩ fun noNumber => noNumber value denotes.2 denotes.1
      · rename_i fault isRead
        have noNumber (value : Nat) (inLimit : value ≤ limit) :
            ¬ Number.Denotes (Text.trimBlank text.toList) value := by
          intro denotes
          rw [Number.whole_eq_ok_iff.mpr ⟨denotes, inLimit⟩] at isRead
          cases isRead
        simp only [reduceCtorEq, exists_false, false_iff, Classical.not_not]
        exact noNumber

/-! ## Clients -/

/-- The name under which requests are made is never in the way. -/
theorem exists_ofSettings (settings : Settings)
    (isDefault : settings.userAgent = default.userAgent) :
    ∃ client, Client.ofSettings settings = .ok client := by
  have isSendable : isSendable default.userAgent = true := by decide
  unfold Client.ofSettings
  rw [isDefault, isSendable]
  exact ⟨_, rfl⟩

/-- **Lookups can be set up exactly if no variable is set to a text that cannot be used.** -/
theorem exists_client_iff :
    (∃ client, (ofEnvironment environment).bind Client.ofSettings = .ok client) ↔
      ¬ IsUnusable environment := by
  simp only [IsUnusable, not_or, ← exists_endpointOf_iff, ← exists_numberOf_iff]
  unfold ofEnvironment
  cases endpointOf environment with
  | error => simp [bind, Except.bind]
  | ok endpoint =>
  cases numberOf environment timeoutVariable Number.largest64 with
  | error => simp [bind, Except.bind]
  | ok timeout =>
  cases numberOf environment pacingVariable Number.largest64 with
  | error => simp [bind, Except.bind]
  | ok pacing =>
  cases numberOf environment retriesVariable Number.largest32 with
  | error => simp [bind, Except.bind]
  | ok retries =>
      have found := exists_ofSettings {
        default with
        endpoint := endpoint.getD default.endpoint
        requestTimeout := (timeout.map Duration.ofSeconds).getD default.requestTimeout
        pacing := (pacing.map Duration.ofMilliseconds).getD default.pacing
        maxRetries := retries.getD default.maxRetries } rfl
      simpa [bind, Except.bind, pure, Except.pure] using found

end WebCompat.Settings
