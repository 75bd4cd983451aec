import WebCompat.Json.Enclosed
import WebCompat.Json.Literal
import WebCompat.Json.Numeral

/-!
Whole values of a document, in two manners: kept, where the value is built and everything
in it has to denote something, and skipped, where only its form is asked for. Both walk
lists and objects alike; they differ in what they make of the parts and in which fault they
report where a comma is not followed by anything.
-/

namespace WebCompat.Json

open WebCompat.Text (Taken)

def keptList : Enclosure :=
  ⟨']', .endInList, .expectedCommaOrBracket, .trailingComma, .endInValue⟩

def keptObject : Enclosure :=
  ⟨'\x7d', .endInObject, .expectedCommaOrBrace, .trailingComma, .endInValue⟩

def skippedList : Enclosure :=
  ⟨']', .endInList, .expectedCommaOrBracket, .expectedValue, .endInValue⟩

def skippedObject : Enclosure :=
  ⟨'\x7d', .endInObject, .expectedCommaOrBrace, .expectedKey, .endInObject⟩

/-- How values are read: what is made of each kind of value, and how its parts are taken.
Names of members are of type `κ`, values of type `ν`. -/
structure Manner (κ ν : Type) where
  /-- A quoted text, from after its opening quote. -/
  quoted : Reader κ
  /-- A number, from after its sign. -/
  number : (isNegative : Bool) → Reader ν
  listEnclosure : Enclosure
  objectEnclosure : Enclosure
  null : ν
  bool : Bool → ν
  text : κ → ν
  list : List ν → ν
  object : List (κ × ν) → ν

variable {α κ ν : Type}

/-- Takes the quoted name of a member. -/
def key (quoted : Reader κ) : Reader κ := fun text =>
  match text with
  | [] => .error (.next .endInValue [])
  | c :: rest =>
      if c = '"' then
        match quoted rest with
        | .error fault => .error fault
        | .ok taken => .ok (taken.widen Text.length_le_cons)
      else .error (.next .expectedKey (c :: rest))

/-- Takes the items of a list, from after its bracket. -/
def items (enclosure : Enclosure) (item : Reader α) : Reader (List α) :=
  Reader.map List.reverse
    (entries enclosure (fun done => Reader.map (fun next => next :: done) item) [])

/-- Takes the members of an object, from after its brace. -/
def members (enclosure : Enclosure) (quoted : Reader κ) (value : Reader α) :
    Reader (List (κ × α)) :=
  Reader.map List.reverse
    (entries enclosure
      (fun done =>
        Reader.bind (key quoted) fun name =>
          Reader.bind colon fun _ => Reader.map (fun next => (name, next) :: done) value)
      [])

/-- Takes a value in the given manner, after white space. Lists and objects may be nested to
the given number of levels. -/
def value (manner : Manner κ ν) : (levels : Nat) → Reader ν := fun levels =>
  Reader.afterSpace fun text =>
    match text with
    | [] => .error (.next .endInValue [])
    | c :: rest =>
        if c = 'n' then Reader.map (fun _ => manner.null) (word 'n' ['u', 'l', 'l']) (c :: rest)
        else if c = 't' then
          Reader.map (fun _ => manner.bool true) (word 't' ['r', 'u', 'e']) (c :: rest)
        else if c = 'f' then
          Reader.map (fun _ => manner.bool false) (word 'f' ['a', 'l', 's', 'e']) (c :: rest)
        else if c = '-' then
          match manner.number true rest with
          | .error fault => .error fault
          | .ok taken => .ok (taken.widen Text.length_le_cons)
        else if c.isDigit then manner.number false (c :: rest)
        else if c = '"' then
          match manner.quoted rest with
          | .error fault => .error fault
          | .ok taken => .ok ((taken.map manner.text).widen Text.length_le_cons)
        else if c = '[' then
          match levels with
          | 0 => .error (.next .tooDeep (c :: rest))
          | inner + 1 =>
              match items manner.listEnclosure (value manner inner) rest with
              | .error fault => .error fault
              | .ok taken => .ok ((taken.map manner.list).widen Text.length_le_cons)
        else if c = '\x7b' then
          match levels with
          | 0 => .error (.next .tooDeep (c :: rest))
          | inner + 1 =>
              match members manner.objectEnclosure manner.quoted (value manner inner) rest with
              | .error fault => .error fault
              | .ok taken => .ok ((taken.map manner.object).widen Text.length_le_cons)
        else .error (.next .expectedValue (c :: rest))

/-- Values are built as they stand. -/
def kept : Manner String Value where
  quoted := quotedText
  number := fun isNegative => Reader.map Value.number (number isNegative)
  listEnclosure := keptList
  objectEnclosure := keptObject
  null := .null
  bool := .bool
  text := .text
  list := .list
  object := .object

/-- Values are passed over. -/
def skipped : Manner Unit Unit where
  quoted := quotedForm
  number := fun _ => numberForm
  listEnclosure := skippedList
  objectEnclosure := skippedObject
  null := ()
  bool := fun _ => ()
  text := fun _ => ()
  list := fun _ => ()
  object := fun _ => ()

/-- Passes over a value of any depth: a text cannot open more levels than it has
characters. -/
def skip : Reader Unit := fun text =>
  value skipped text.length text

/-- The fault of a value that is of another kind than expected, at its first character. A
scalar is read first, and a fault in it comes first; a list or an object is not opened. -/
def wrongKind (expected : String) (text : List Char) : Fault :=
  match text with
  | '[' :: _ => .before (.wrongKind (.list []) expected) text
  | '\x7b' :: _ => .before (.wrongKind (.object []) expected) text
  | _ =>
      match value kept 0 text with
      | .error fault => fault
      | .ok taken => .before (.wrongKind taken.value expected) taken.rest

end WebCompat.Json
