import WebCompat.Lookup.Duration
import WebCompat.Number.Limit
import WebCompat.Number.Whole
import WebCompat.Text.Blank
import WebCompat.Text.Utf8

/-!
Settings of the lookups, from their defaults and from variables of the environment.
-/

namespace WebCompat

/-- The values of the variables that are set, as bytes. -/
abbrev Environment :=
  String → Option (List UInt8)

/-- Why lookups cannot be set up. -/
inductive SetupError where
  /-- A variable has a value that cannot be used. -/
  | invalidValue (name value reason : String)
  /-- The name under which requests are made cannot be sent. -/
  | unusableUserAgent
deriving DecidableEq, Repr

def SetupError.message : SetupError → String
  | .invalidValue name value reason =>
      "invalid value \x60" ++ value ++ "\x60 for " ++ name ++ ": " ++ reason
  | .unusableUserAgent => "failed to build HTTP client: builder error"

/-- How lookups are made. -/
structure Settings where
  /-- The address that is asked for a token. -/
  endpoint : String
  requestTimeout : Duration
  /-- The pause between the lookups of a batch. -/
  pacing : Duration
  /-- How often a request is made again after the answer that there were too many. -/
  maxRetries : Nat
  initialBackoff : Duration
  maxBackoff : Duration
  /-- The name under which requests are made. -/
  userAgent : String

namespace Settings

def default : Settings where
  endpoint := "https://api.webstatus.dev/v1/features"
  requestTimeout := .ofSeconds 10
  pacing := .ofMilliseconds 100
  maxRetries := 0
  initialBackoff := .ofSeconds 1
  maxBackoff := .ofSeconds 30
  userAgent := "baseline-lib/0.1.0"

def endpointVariable : String := "BASELINE_API_URL"

def timeoutVariable : String := "BASELINE_TIMEOUT_SECS"

def pacingVariable : String := "BASELINE_PACING_MS"

def retriesVariable : String := "BASELINE_MAX_RETRIES"

/-- The value of a variable; one that is not text counts as not set. -/
def textOf (environment : Environment) (name : String) : Option String :=
  (environment name).bind Text.ofBytes?

/-- The endpoint that the environment gives, if it gives one: a text that is not blank. -/
def endpointOf (environment : Environment) : Except SetupError (Option String) :=
  match textOf environment endpointVariable with
  | none => .ok none
  | some raw =>
      if (Text.trim raw).isEmpty then
        .error (.invalidValue endpointVariable (Text.trim raw) "endpoint must not be empty")
      else .ok (some (Text.trim raw))

/-- The number that the environment gives for a variable, if it gives one. -/
def numberOf (environment : Environment) (name : String) (limit : Nat) :
    Except SetupError (Option Nat) :=
  match textOf environment name with
  | none => .ok none
  | some raw =>
      match Number.whole limit (Text.trimBlank raw.toList) with
      | .ok value => .ok (some value)
      | .error fault => .error (.invalidValue name raw fault.message)

/-- The default settings with what the environment says; the first variable that cannot be
used is the error. -/
def ofEnvironment (environment : Environment) : Except SetupError Settings := do
  let endpoint ← endpointOf environment
  let timeout ← numberOf environment timeoutVariable Number.largest64
  let pacing ← numberOf environment pacingVariable Number.largest64
  let retries ← numberOf environment retriesVariable Number.largest32
  return {
    default with
    endpoint := endpoint.getD default.endpoint
    requestTimeout := (timeout.map Duration.ofSeconds).getD default.requestTimeout
    pacing := (pacing.map Duration.ofMilliseconds).getD default.pacing
    maxRetries := retries.getD default.maxRetries }

/-- The largest factor by which the first delay grows. -/
def largestFactor : Nat := Number.largest32

/-- The delay before a retry, counted from zero: it doubles each time, by at most the largest
factor, and has an upper bound. -/
def backoffDelay (settings : Settings) (attempt : Nat) : Duration :=
  (settings.initialBackoff.times
      (if attempt < 32 then Nat.pow 2 attempt else largestFactor)).shorter
    settings.maxBackoff

/-- Whether a name can be sent with a request: it has no control character but tabs. -/
def isSendable (userAgent : String) : Bool :=
  userAgent.toList.all fun c => c == '\t' || (0x20 ≤ c.toNat && c.toNat != 0x7F)

end Settings

end WebCompat
