import WebCompat.Json.Typed

/-!
Structures with named fields. In a document a structure is an object whose members may come
in any order, among them members that the structure does not know, or else a list of the
fields in their order, from which the last ones may be missing if they can be left out.
-/

namespace WebCompat.Json

open WebCompat.Text (Taken)

/-- A field of a structure whose fields read so far are a `σ`. -/
structure Field (σ : Type) where
  name : String
  isGiven : σ → Bool
  /-- What the value does to the fields, or why it does not fit. That it does not fit is
  noticed only where the structure ends. -/
  reader : Reader (Except Cause (σ → σ))

/-- A structure: its name, its fields in order, and its value if no field is missing. -/
structure Schema (σ α : Type) where
  name : String
  fields : List (Field σ)
  empty : σ
  /-- The value, or the name of the first missing field that cannot be left out. -/
  build : σ → Except String α

namespace Schema

variable {σ α : Type}

/-- Where the end of an object shows: behind the closing brace if it comes next. -/
def afterBrace (text : List Char) : List Char :=
  match skipSpace text with
  | '\x7d' :: rest => rest
  | other => other

/-- Where the end of a list shows: behind the closing bracket or the comma that comes
next. -/
def afterBracket (text : List Char) : List Char :=
  match skipSpace text with
  | ']' :: rest => rest
  | ',' :: rest => skipSpace rest
  | other => other

/-- Takes the value of a field, the end of the structure being where `close` says. -/
def fieldValue (close : List Char → List Char) (field : Field σ) (state : σ) : Reader σ :=
  fun text =>
    match field.reader text with
    | .error fault => .error fault
    | .ok taken =>
        match taken.value with
        | .error cause => .error (.before cause (close taken.rest))
        | .ok update => .ok ⟨update state, taken.rest, taken.shorter⟩

/-- Takes the member of an object behind its name: a known field once, anything else without
effect. -/
def memberValue (schema : Schema σ α) (state : σ) (name : String) : Reader σ :=
  match schema.fields.find? fun field => field.name == name with
  | none => Reader.bind colon fun _ => Reader.map (fun _ => state) skip
  | some field => fun text =>
      if field.isGiven state then
        .error (.before (.duplicateField name) (afterBrace text))
      else Reader.bind colon (fun _ => fieldValue afterBrace field state) text

/-- Takes one member of an object. -/
def member (schema : Schema σ α) (state : σ) : Reader σ :=
  Reader.bind (key quotedText) (schema.memberValue state)

/-- Takes the structure as an object, from after its brace. -/
def ofObject (schema : Schema σ α) : Reader α :=
  Reader.judge (entries keptObject schema.member schema.empty) fun state =>
    (schema.build state).mapError .missingField

/-- Takes the closing bracket after the last field. -/
def listEnd : Reader Unit :=
  Reader.afterSpace fun text =>
    match text with
    | [] => .error (.next .endInList [])
    | c :: rest =>
        if c = ']' then .ok ⟨(), rest, Text.length_lt_cons⟩
        else if c = ',' then
          match skipSpace rest with
          | ']' :: others => .error (.next .trailingComma (']' :: others))
          | other => .error (.next .trailingCharacters other)
        else .error (.next .trailingCharacters (c :: rest))

/-- Ends a list before all fields are read, at its closing bracket. -/
def shortList (schema : Schema σ α) (state : σ) (rest : List Char) : Except Fault α :=
  (schema.build state).mapError fun missing =>
    .before
      (.wrongLength (schema.fields.findIdx fun field => field.name == missing)
        schema.name schema.fields.length)
      rest

/-- Takes the remaining fields of a list that already has some, up to and including the
closing bracket. -/
def moreFields (schema : Schema σ α) : List (Field σ) → σ → Reader α
  | [], state => fun text =>
      match listEnd text with
      | .error fault => .error fault
      | .ok taken =>
          match schema.shortList state taken.rest with
          | .error fault => .error fault
          | .ok value => .ok ⟨value, taken.rest, taken.shorter⟩
  | field :: fields, state => fun text =>
      match skipSpace text, skipSpace_length_le text with
      | [], _ => .error (.next .endInList [])
      | c :: rest, le =>
          if c = ']' then
            match schema.shortList state rest with
            | .error fault => .error fault
            | .ok value => .ok ⟨value, rest, le⟩
          else if c = ',' then
            match skipSpace rest, skipSpace_length_le rest with
            | [], _ => .error (.next .endInValue [])
            | d :: others, leOthers =>
                if d = ']' then .error (.next .trailingComma (d :: others))
                else
                  match
                    Reader.bind (fieldValue afterBracket field state)
                      (moreFields schema fields) (d :: others) with
                  | .error fault => .error fault
                  | .ok taken =>
                      .ok (taken.widen (by
                        simp only [List.length_cons] at le leOthers ⊢
                        omega))
          else .error (.next .expectedCommaOrBracket (c :: rest))

/-- Takes the structure as a list of its fields, from after its bracket. -/
def ofList (schema : Schema σ α) : Reader α :=
  Reader.afterSpace fun text =>
    match text, schema.fields with
    | [], _ => .error (.next .endInList [])
    | c :: rest, fields =>
        if c = ']' then
          match schema.shortList schema.empty rest with
          | .error fault => .error fault
          | .ok value => .ok ⟨value, rest, Text.length_lt_cons⟩
        else
          match fields with
          | [] => .error (.next .trailingCharacters (c :: rest))
          | field :: fields =>
              Reader.bind (fieldValue afterBracket field schema.empty)
                (schema.moreFields fields) (c :: rest)

/-- Takes the structure in either form. -/
def reader (schema : Schema σ α) : Reader α :=
  Reader.afterSpace fun text =>
    match text with
    | [] => .error (.next .endInValue [])
    | c :: rest =>
        if c = '[' then
          match schema.ofList rest with
          | .error fault => .error fault
          | .ok taken => .ok (taken.widen Text.length_le_cons)
        else if c = '\x7b' then
          match schema.ofObject rest with
          | .error fault => .error fault
          | .ok taken => .ok (taken.widen Text.length_le_cons)
        else .error (wrongKind ("struct " ++ schema.name) (c :: rest))

end Schema

/-- The value of a document that consists of one value and nothing else. -/
def read {α : Type} (value : Reader α) (document : String) : Except Error α :=
  let text := document.toList
  match value text with
  | .error fault => .error (.ofFault text fault)
  | .ok taken =>
      match skipSpace taken.rest with
      | [] => .ok taken.value
      | rest => .error (.ofFault text (.next .trailingCharacters rest))

end WebCompat.Json
