import WebCompat.Json.Document

/-!
Readers for values of an expected kind. A value of another kind is a fault, as is a text
that does not denote what it should.
-/

namespace WebCompat.Json

variable {α κ : Type}

/-- Takes a text. The fault of another kind of value says what was expected. -/
def text (expected : String) : Reader String :=
  Reader.afterSpace fun text =>
    match text with
    | [] => .error (.next .endInValue [])
    | c :: rest =>
        if c = '"' then
          match quotedText rest with
          | .error fault => .error fault
          | .ok taken => .ok (taken.widen Text.length_le_cons)
        else .error (wrongKind expected (c :: rest))

def list (item : Reader α) : Reader (List α) :=
  Reader.afterSpace fun text =>
    match text with
    | [] => .error (.next .endInValue [])
    | c :: rest =>
        if c = '[' then
          match items keptList item rest with
          | .error fault => .error fault
          | .ok taken => .ok (taken.widen Text.length_le_cons)
        else .error (wrongKind "a sequence" (c :: rest))

/-- Takes an object whose names are data, as the list of its members. -/
def table (value : Reader α) : Reader (List (String × α)) :=
  Reader.afterSpace fun text =>
    match text with
    | [] => .error (.next .endInValue [])
    | c :: rest =>
        if c = '\x7b' then
          match members keptObject quotedText value rest with
          | .error fault => .error fault
          | .ok taken => .ok (taken.widen Text.length_le_cons)
        else .error (wrongKind "a map" (c :: rest))

/-- Takes a value that may be null. -/
def optional (value : Reader α) : Reader (Option α) :=
  Reader.afterSpace fun text =>
    match text with
    | 'n' :: rest => Reader.map (fun _ => none) (word 'n' ['u', 'l', 'l']) ('n' :: rest)
    | other => Reader.map some value other

/-- Takes the value null. -/
def unit : Reader Unit :=
  Reader.afterSpace fun text =>
    match text with
    | [] => .error (.next .endInValue [])
    | 'n' :: rest => word 'n' ['u', 'l', 'l'] ('n' :: rest)
    | other => .error (wrongKind "unit" other)

/-- The variant that a word names. -/
def variant (known : List (String × α)) (word : String) : Except Cause α :=
  match known.lookup word with
  | some value => .ok value
  | none => .error (.unknownVariant word (known.map Prod.fst))

/-- Takes the closing brace of an object with a single member. -/
def closeSingle : Reader Unit :=
  Reader.afterSpace fun text =>
    match text with
    | [] => .error (.before .endInObject [])
    | c :: rest =>
        if c = '\x7d' then .ok ⟨(), rest, Text.length_lt_cons⟩
        else .error (.before .expectedValue (c :: rest))

def variantName (known : List (String × α)) : Reader α :=
  Reader.judge (text "variant identifier") (variant known)

/-- Takes the key of an object that names a variant. What is no text is no key, and a closing
brace leaves the place of a value empty. -/
def variantKey (known : List (String × α)) : Reader α :=
  Reader.afterSpace fun text =>
    match text with
    | [] => .error (.next .endInValue [])
    | '"' :: rest => variantName known ('"' :: rest)
    | '\x7d' :: rest => .error (.next .expectedValue ('\x7d' :: rest))
    | other => .error (.next .expectedKey other)

/-- Takes one of a number of named variants: a text with its name, or an object with its
name for the only key and the value null. -/
def oneOf (known : List (String × α)) : Reader α :=
  Reader.afterSpace fun text =>
    match text with
    | [] => .error (.next .endInValue [])
    | '"' :: rest => variantName known ('"' :: rest)
    | '\x7b' :: inner =>
        match
          Reader.bind (variantKey known)
            (fun value =>
              Reader.bind colon fun _ =>
                Reader.bind unit fun _ => Reader.map (fun _ => value) closeSingle)
            inner with
        | .error fault => .error fault
        | .ok taken => .ok (taken.widen Text.length_le_cons)
    | other => .error (.next .expectedValue other)

end WebCompat.Json
