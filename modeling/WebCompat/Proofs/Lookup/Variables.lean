import WebCompat.Proofs.Lookup.Settings
import WebCompat.Proofs.Result

/-!
What the variables of the environment say. A variable that is not set, or whose bytes are no text,
says nothing; any other one gives a value or is refused, which its text alone decides. Settings take
over what is given, and the first variable that is refused is the error, whatever the variables
behind it hold.

Owns: which texts a variable accepts and what is blamed for the others; one law for the reading of
any variable; and the settings and errors of an environment.
-/

namespace WebCompat.Settings

/-! ## Texts -/

/-- Whether a text is accepted as an endpoint: it is not blank, and the white space at its ends is
left out. -/
def AcceptsEndpoint (text endpoint : String) : Prop :=
  (∃ c ∈ text.toList, Text.isBlank c = false) ∧ endpoint = Text.trim text

/-- Whether a text is accepted as a number: it denotes the number, the white space at its ends
apart, and the number is within the limit. -/
def AcceptsNumber (limit : Nat) (text : String) (value : Nat) : Prop :=
  Number.Denotes (Text.trimBlank text.toList) value ∧ value ≤ limit

/-- The error of a text that is no endpoint. -/
def BlamesEndpoint (text : String) (error : SetupError) : Prop :=
  (∀ c ∈ text.toList, Text.isBlank c = true) ∧
    error = .invalidValue endpointVariable "" "endpoint must not be empty"

/-- The error of a text that is no number for a variable: it repeats the text as it is and says
what is wrong with it, the white space at its ends apart. -/
def BlamesNumber (name : String) (limit : Nat) (text : String) (error : SetupError) : Prop :=
  ∃ fault : Number.WholeFault, fault.Blames limit (Text.trimBlank text.toList) ∧
    error = .invalidValue name text fault.message

/-- The endpoint in a text. -/
def endpointIn (text : String) : Except SetupError String :=
  if (Text.trim text).isEmpty then
    .error (.invalidValue endpointVariable (Text.trim text) "endpoint must not be empty")
  else .ok (Text.trim text)

/-- The number in the text of a variable. -/
def numberIn (name : String) (limit : Nat) (text : String) : Except SetupError Nat :=
  (Number.whole limit (Text.trimBlank text.toList)).mapError fun fault =>
    .invalidValue name text fault.message

theorem endpointIn_eq_ok_iff {text endpoint : String} :
    endpointIn text = .ok endpoint ↔ AcceptsEndpoint text endpoint := by
  have notBlank :
      ¬ (Text.trim text).isEmpty = true ↔ ∃ c ∈ text.toList, Text.isBlank c = false := by
    rw [isEmpty_trim_iff]
    simp
  rw [endpointIn, AcceptsEndpoint, ← notBlank]
  split
  · rename_i isEmpty
    exact iff_of_false (fun isOk => by cases isOk) fun accepts => accepts.1 isEmpty
  · rename_i someText
    rw [Except.ok.injEq, and_iff_right someText, eq_comm]

theorem endpointIn_eq_error_iff {text : String} {error : SetupError} :
    endpointIn text = .error error ↔ BlamesEndpoint text error := by
  rw [endpointIn, BlamesEndpoint, ← isEmpty_trim_iff]
  split
  · rename_i isEmpty
    have noText : Text.trim text = "" := String.isEmpty_iff.mp isEmpty
    rw [noText, Except.error.injEq, and_iff_right (by rfl), eq_comm]
  · rename_i someText
    exact iff_of_false (fun isError => by cases isError) fun blames => someText blames.1

theorem numberIn_eq_ok_iff {name : String} {limit : Nat} {text : String} {value : Nat} :
    numberIn name limit text = .ok value ↔ AcceptsNumber limit text value := by
  rw [numberIn, AcceptsNumber, ← Number.whole_eq_ok_iff]
  cases Number.whole limit (Text.trimBlank text.toList) <;> simp [Except.mapError]

theorem numberIn_eq_error_iff {name : String} {limit : Nat} {text : String} {error : SetupError} :
    numberIn name limit text = .error error ↔ BlamesNumber name limit text error := by
  unfold numberIn BlamesNumber
  simp only [← Number.whole_eq_error_iff]
  cases Number.whole limit (Text.trimBlank text.toList) <;> simp [Except.mapError, eq_comm]

/-! ## Variables -/

variable {environment : Environment} {α : Type}

/-- Whether a variable is not set, or is set to bytes that are no text. -/
def IsUnset (environment : Environment) (name : String) : Prop :=
  ∀ text, ¬ IsSetTo environment name text

/-- What a variable gives: nothing if it is unset, and else a value that its text is accepted
as. -/
def Gives (environment : Environment) (name : String) (accepts : String → α → Prop) :
    Option α → Prop
  | none => IsUnset environment name
  | some value => ∃ text, IsSetTo environment name text ∧ accepts text value

/-- Whether a variable is set to a text that an error blames. -/
def Refuses (environment : Environment) (name : String) (blames : String → SetupError → Prop)
    (error : SetupError) : Prop :=
  ∃ text, IsSetTo environment name text ∧ blames text error

/-- Reads a variable, if it is set to a text. -/
def ofVariable (environment : Environment) (name : String) (read : String → Except SetupError α) :
    Except SetupError (Option α) :=
  match textOf environment name with
  | none => .ok none
  | some text => (read text).map some

private theorem endpointOf_eq (environment : Environment) :
    endpointOf environment = ofVariable environment endpointVariable endpointIn := by
  unfold endpointOf ofVariable endpointIn
  cases textOf environment endpointVariable with
  | none => rfl
  | some text =>
      dsimp only
      split <;> rfl

private theorem numberOf_eq (environment : Environment) (name : String) (limit : Nat) :
    numberOf environment name limit = ofVariable environment name (numberIn name limit) := by
  unfold numberOf ofVariable numberIn
  cases textOf environment name with
  | none => rfl
  | some text =>
      dsimp only
      cases Number.whole limit (Text.trimBlank text.toList) <;> rfl

section

variable {name : String} {read : String → Except SetupError α}

theorem ofVariable_eq_ok_iff {accepts : String → α → Prop}
    (isRead : ∀ text value, read text = .ok value ↔ accepts text value) {given : Option α} :
    ofVariable environment name read = .ok given ↔ Gives environment name accepts given := by
  unfold ofVariable
  cases given with
  | none =>
      simp only [Gives, IsUnset, ← textOf_eq_some_iff, ← Option.eq_none_iff_forall_ne_some]
      cases textOf environment name with
      | none => simp
      | some text =>
          dsimp only
          cases read text <;> simp [Except.map]
  | some value =>
      simp only [Gives, ← textOf_eq_some_iff, ← isRead]
      cases textOf environment name with
      | none => simp
      | some text =>
          simp only [Option.some.injEq, exists_eq_left']
          cases read text <;> simp [Except.map]

theorem ofVariable_eq_error_iff {blames : String → SetupError → Prop}
    (isRead : ∀ text error, read text = .error error ↔ blames text error) {error : SetupError} :
    ofVariable environment name read = .error error ↔ Refuses environment name blames error := by
  unfold ofVariable Refuses
  simp only [← textOf_eq_some_iff, ← isRead]
  cases textOf environment name with
  | none => simp
  | some text =>
      simp only [Option.some.injEq, exists_eq_left']
      cases read text <;> simp [Except.map]

end

theorem endpointOf_eq_ok_iff {endpoint : Option String} :
    endpointOf environment = .ok endpoint ↔
      Gives environment endpointVariable AcceptsEndpoint endpoint := by
  rw [endpointOf_eq]
  exact ofVariable_eq_ok_iff fun _ _ => endpointIn_eq_ok_iff

theorem endpointOf_eq_error_iff {error : SetupError} :
    endpointOf environment = .error error ↔
      Refuses environment endpointVariable BlamesEndpoint error := by
  rw [endpointOf_eq]
  exact ofVariable_eq_error_iff fun _ _ => endpointIn_eq_error_iff

/-- The numbers that a variable gives. -/
theorem numberOf_eq_ok_iff {name : String} {limit : Nat} {given : Option Nat} :
    numberOf environment name limit = .ok given ↔
      Gives environment name (AcceptsNumber limit) given := by
  rw [numberOf_eq]
  exact ofVariable_eq_ok_iff fun _ _ => numberIn_eq_ok_iff

/-- The errors that the number of a variable gives. -/
theorem numberOf_eq_error_iff {name : String} {limit : Nat} {error : SetupError} :
    numberOf environment name limit = .error error ↔
      Refuses environment name (BlamesNumber name limit) error := by
  rw [numberOf_eq]
  exact ofVariable_eq_error_iff fun _ _ => numberIn_eq_error_iff

/-! ## Environments -/

/-- What the variables give. -/
structure Given where
  endpoint : Option String
  timeout : Option Nat
  pacing : Option Nat
  retries : Option Nat

/-- Whether the variables of an environment give this. -/
structure Given.IsOf (given : Given) (environment : Environment) : Prop where
  endpoint : Gives environment endpointVariable AcceptsEndpoint given.endpoint
  timeout : Gives environment timeoutVariable (AcceptsNumber Number.largest64) given.timeout
  pacing : Gives environment pacingVariable (AcceptsNumber Number.largest64) given.pacing
  retries : Gives environment retriesVariable (AcceptsNumber Number.largest32) given.retries

/-- Whether settings are exactly what is given, seconds for the timeout and milliseconds for the
pause, and the defaults in all else. -/
structure Takes (settings : Settings) (given : Given) : Prop where
  endpoint : settings.endpoint = given.endpoint.getD default.endpoint
  requestTimeout : settings.requestTimeout.nanoseconds =
    (given.timeout.map (· * 1000000000)).getD default.requestTimeout.nanoseconds
  pacing : settings.pacing.nanoseconds =
    (given.pacing.map (· * 1000000)).getD default.pacing.nanoseconds
  maxRetries : settings.maxRetries = given.retries.getD default.maxRetries
  initialBackoff : settings.initialBackoff = default.initialBackoff
  maxBackoff : settings.maxBackoff = default.maxBackoff
  userAgent : settings.userAgent = default.userAgent

/-- Whether an error is that of the first refusal of several. -/
def FirstOf : List (SetupError → Prop) → SetupError → Prop
  | [], _ => False
  | refuses :: others, error =>
      refuses error ∨ (¬ ∃ other, refuses other) ∧ FirstOf others error

/-- Why the variables are refused, in the order in which they are looked at. -/
def refusals (environment : Environment) : List (SetupError → Prop) :=
  [Refuses environment endpointVariable BlamesEndpoint,
    Refuses environment timeoutVariable (BlamesNumber timeoutVariable Number.largest64),
    Refuses environment pacingVariable (BlamesNumber pacingVariable Number.largest64),
    Refuses environment retriesVariable (BlamesNumber retriesVariable Number.largest32)]

/-- The default settings with what is given. -/
def Given.settings (given : Given) : Settings := {
  default with
  endpoint := given.endpoint.getD default.endpoint
  requestTimeout := (given.timeout.map Duration.ofSeconds).getD default.requestTimeout
  pacing := (given.pacing.map Duration.ofMilliseconds).getD default.pacing
  maxRetries := given.retries.getD default.maxRetries }

/-- A span that is given as a number of units is that many units, if none of them are cut off. -/
theorem nanoseconds_getD_map {unit : Nat} {given : Option Nat} (otherwise : Duration)
    (inRange : ∀ n ∈ given, n * unit ≤ longestNanoseconds) :
    ((given.map fun n => Duration.ofNanoseconds (n * unit)).getD otherwise).nanoseconds =
      (given.map (· * unit)).getD otherwise.nanoseconds := by
  cases given with
  | none => rfl
  | some n => exact Nat.min_eq_left (inRange n rfl)

theorem le_of_gives {name : String} {limit : Nat} {given : Option Nat}
    (gives : Gives environment name (AcceptsNumber limit) given) : ∀ n ∈ given, n ≤ limit := by
  rintro n rfl
  obtain ⟨text, isSet, denotes, inLimit⟩ := gives
  exact inLimit

/-- Every number that a variable accepts is a span that is not cut off. -/
theorem Given.takes_settings {given : Given} (isOf : given.IsOf environment) :
    given.settings.Takes given where
  endpoint := rfl
  requestTimeout := by
    refine nanoseconds_getD_map default.requestTimeout ?_
    intro n member
    have inLimit := le_of_gives isOf.timeout n member
    unfold longestNanoseconds
    omega
  pacing := by
    refine nanoseconds_getD_map default.pacing ?_
    intro n member
    have inLimit := le_of_gives isOf.pacing n member
    unfold longestNanoseconds
    omega
  maxRetries := rfl
  initialBackoff := rfl
  maxBackoff := rfl
  userAgent := rfl

theorem Takes.unique {settings other : Settings} {given : Given} (takes : settings.Takes given)
    (otherTakes : other.Takes given) : settings = other := by
  have sameSpan : ∀ a b : Duration, a.nanoseconds = b.nanoseconds → a = b := by
    rintro ⟨n, _⟩ ⟨_, _⟩ rfl
    rfl
  have sameTimeout := sameSpan _ _ (takes.requestTimeout.trans otherTakes.requestTimeout.symm)
  have samePacing := sameSpan _ _ (takes.pacing.trans otherTakes.pacing.symm)
  cases settings
  cases other
  have sameEndpoint := takes.endpoint.trans otherTakes.endpoint.symm
  have sameRetries := takes.maxRetries.trans otherTakes.maxRetries.symm
  have sameInitial := takes.initialBackoff.trans otherTakes.initialBackoff.symm
  have sameMax := takes.maxBackoff.trans otherTakes.maxBackoff.symm
  have sameAgent := takes.userAgent.trans otherTakes.userAgent.symm
  simp_all

/-- Settings are made of what the four variables give. -/
theorem ofEnvironment_eq_ok_iff {settings : Settings} :
    ofEnvironment environment = .ok settings ↔
      ∃ given : Given, given.IsOf environment ∧ given.settings = settings := by
  simp only [ofEnvironment, bind_eq_ok_iff, endpointOf_eq_ok_iff, numberOf_eq_ok_iff]
  constructor
  · rintro ⟨endpoint, isEndpoint, timeout, isTimeout, pacing, isPacing, retries, isRetries, isMade⟩
    exact ⟨⟨endpoint, timeout, pacing, retries⟩, ⟨isEndpoint, isTimeout, isPacing, isRetries⟩,
      Except.ok.inj isMade⟩
  · rintro ⟨given, isOf, rfl⟩
    exact ⟨given.endpoint, isOf.endpoint, given.timeout, isOf.timeout, given.pacing, isOf.pacing,
      given.retries, isOf.retries, rfl⟩

/-- Reading goes on behind a variable that is not refused. -/
private theorem firstOf_bind {read : Except SetupError α} {next : α → Except SetupError Settings}
    {refuses : SetupError → Prop} {others : List (SetupError → Prop)} {error : SetupError}
    (isRefused : ∀ error, read = .error error ↔ refuses error)
    (isNext : ∀ value, next value = .error error ↔ FirstOf others error) :
    (read >>= next) = .error error ↔ FirstOf (refuses :: others) error := by
  simp only [FirstOf, ← isRefused]
  cases read with
  | error found => simp [bind, Except.bind]
  | ok value => simpa [bind, Except.bind] using isNext value

/-- An error is that of the first variable that is refused. -/
theorem ofEnvironment_eq_error_iff {error : SetupError} :
    ofEnvironment environment = .error error ↔ FirstOf (refusals environment) error := by
  apply firstOf_bind (fun _ => endpointOf_eq_error_iff)
  intro endpoint
  apply firstOf_bind (fun _ => numberOf_eq_error_iff)
  intro timeout
  apply firstOf_bind (fun _ => numberOf_eq_error_iff)
  intro pacing
  apply firstOf_bind (fun _ => numberOf_eq_error_iff)
  intro retries
  exact iff_of_false (fun isError => by cases isError) id

/-- **Settings follow the variables.** There are settings exactly if every variable gives something,
be it that it is unset; they are what is given, and the defaults in all else. If there are none, the
error is that of the first variable that is refused. -/
theorem ofEnvironment_follows_variables (environment : Environment) :
    ((∃ settings, ofEnvironment environment = .ok settings) ↔
      ∃ given : Given, given.IsOf environment) ∧
      (∀ settings, ofEnvironment environment = .ok settings ↔
        ∃ given : Given, given.IsOf environment ∧ settings.Takes given) ∧
      ∀ error, ofEnvironment environment = .error error ↔
        FirstOf (refusals environment) error := by
  refine ⟨?_, ?_, fun error => ofEnvironment_eq_error_iff⟩
  · simp only [ofEnvironment_eq_ok_iff]
    constructor
    · rintro ⟨settings, given, isOf, -⟩
      exact ⟨given, isOf⟩
    · rintro ⟨given, isOf⟩
      exact ⟨given.settings, given, isOf, rfl⟩
  · intro settings
    rw [ofEnvironment_eq_ok_iff]
    constructor
    · rintro ⟨given, isOf, rfl⟩
      exact ⟨given, isOf, given.takes_settings isOf⟩
    · rintro ⟨given, isOf, takes⟩
      exact ⟨given, isOf, (given.takes_settings isOf).unique takes⟩

end WebCompat.Settings
