/-!
Content types: a type and a subtype with parameters behind them. A text that is not written as a
content type as a whole has no parameters at all.
-/

namespace WebCompat.Net.ContentType

/-- The characters of names. -/
def isToken (c : Char) : Bool :=
  c.isAlphanum || "!#$%&\x27*+-.^_\x60|~".toList.contains c

/-- The characters between quotes. -/
def isQuotable (c : Char) : Bool :=
  '\x20' ≤ c && c ≤ '\x7e'

/-- Where one is among parameters. What was read is given backwards. -/
inductive Place where
  /-- In front of a name. -/
  | start
  | name (before : List Char)
  | value (name before : List Char)
  | quoted (name before : List Char)
  /-- Behind the quotes of a value. -/
  | finished

/-- Reads parameters, each with its name and its value. -/
def parameters? : Place → List Char → Option (List (String × String))
  | .start, [] | .finished, [] => some []
  | .name _, [] | .quoted .., [] => none
  | .value name before, [] => some [(String.ofList name, String.ofList before.reverse)]
  | .start, c :: rest =>
      if c = ' ' then parameters? .start rest
      else if isToken c then parameters? (.name [c]) rest
      else none
  | .name before, c :: rest =>
      if c = '=' then parameters? (.value (before.reverse.map Char.toLower) []) rest
      else if isToken c then parameters? (.name (c :: before)) rest
      else none
  | .value name before, c :: rest =>
      if c = '"' ∧ before = [] then parameters? (.quoted name []) rest
      else if c = ';' ∧ before ≠ [] then
        (parameters? .start rest).map ((String.ofList name, String.ofList before.reverse) :: ·)
      else if isToken c then parameters? (.value name (c :: before)) rest
      else none
  | .quoted name before, c :: rest =>
      if c = '"' ∧ before ≠ [] then
        (parameters? .finished rest).map ((String.ofList name, String.ofList before.reverse) :: ·)
      else if isQuotable c then parameters? (.quoted name (c :: before)) rest
      else none
  | .finished, c :: rest =>
      if c = ';' then parameters? .start rest
      else if c = ' ' then parameters? .finished rest
      else none

/-- The parameters of a content type. -/
def ofText? (text : String) : Option (List (String × String)) :=
  match text.toList.dropWhile isToken with
  | '/' :: rest =>
      let type := text.toList.takeWhile isToken
      let subtype := rest.takeWhile isToken
      match type.isEmpty, rest.dropWhile isToken with
      | false, [] => some []
      | false, ';' :: fields => if subtype.isEmpty then none else parameters? .start fields
      | _, _ => none
  | _ => none

/-- The first parameter with a given name. -/
def parameter? (name : String) (text : String) : Option String :=
  (ofText? text).bind (List.lookup name)

end WebCompat.Net.ContentType
