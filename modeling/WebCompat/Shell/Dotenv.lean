import WebCompat.Lookup.Settings
import WebCompat.Text.Word

/-!
Files with variables of the environment, one assignment to a line. A value may be quoted, in
which case it may go over several lines, and may mention other variables after a dollar
sign. Variables that are set already keep their value, and the first line that cannot be
read ends the file.
-/

namespace WebCompat.Dotenv

/-! ## Lines -/

/-- Where one is in a line with quotes. -/
inductive Place where
  | plain
  | afterBlank
  | escape
  | weak
  | weakEscape
  | strong
  | strongEscape
deriving DecidableEq, Repr

/-- What opens or goes on outside of quotes. -/
def outside (c : Char) : Place :=
  if c = '\\' then .escape
  else if c = '"' then .weak
  else if c = '\x27' then .strong
  else .plain

/-- A character kept in front of what is left of a line. -/
def keep (c : Char) (walked : List Char × Option Place) : List Char × Option Place :=
  (c :: walked.1, walked.2)

/-- Goes through a line, up to a comment if there is one: what is left of the line, and the
place at its end. None as the place says that a comment ended the line. -/
def walk : Place → List Char → List Char × Option Place
  | place, [] => ([], some place)
  | .afterBlank, c :: rest =>
      if c = '#' then ([], none) else keep c (walk (outside c) rest)
  | .plain, c :: rest =>
      keep c
        (walk (if Text.isBlank c && c != '\n' && c != '\r' then .afterBlank else outside c) rest)
  | .escape, c :: rest => keep c (walk .plain rest)
  | .weak, c :: rest =>
      keep c (walk (if c = '\\' then .weakEscape else if c = '"' then .plain else .weak) rest)
  | .weakEscape, c :: rest => keep c (walk .weak rest)
  | .strong, c :: rest =>
      keep c
        (walk (if c = '\\' then .strongEscape else if c = '\x27' then .plain else .strong) rest)
  | .strongEscape, c :: rest => keep c (walk .strong rest)

/-- A line without its line break. -/
def withoutBreak (line : List Char) : List Char :=
  match line.reverse with
  | '\n' :: '\r' :: rest => rest.reverse
  | '\n' :: rest => rest.reverse
  | _ => line

/-- The lines of bytes, each with its line feed. -/
def rawLines : List UInt8 → List (List UInt8)
  | [] => []
  | b :: rest =>
      match rawLines rest with
      | [] => [[b]]
      | first :: others => if b = 10 then [b] :: first :: others else (b :: first) :: others

/-- The assignments in lines, each in a line of its own even if quotes make it go over
several. None stands for the end of what can be read. -/
def logicalLines (before : List Char) (place : Place) :
    List (List UInt8) → List (Option (List Char))
  | [] => if place = .plain then [] else [none]
  | raw :: others =>
      match Text.ofBytes? raw with
      | none => [none]
      | some line =>
          if (Text.skipBlank (before ++ line.toList)).head? = some '#' then
            some [] :: logicalLines [] .plain others
          else
            match walk place line.toList with
            | (front, none) => some (before ++ front) :: logicalLines [] .plain others
            | (front, some .plain) =>
                some (withoutBreak (before ++ front)) :: logicalLines [] .plain others
            | (front, some open_) => logicalLines (before ++ front) open_ others

/-! ## Values -/

/-- What the characters of a value are read as. -/
inductive Mode where
  | plain
  /-- Behind a backslash. -/
  | escaped
  /-- Behind the value: only a comment may follow. -/
  | finished
  /-- In single quotes. -/
  | strong
  /-- In the name of a variable. -/
  | named (name : List Char)
  /-- In the name of a variable between braces. -/
  | braced (name : List Char)
deriving DecidableEq, Repr

/-- The characters that a backslash keeps as they are. -/
def isEscapable (c : Char) : Bool :=
  c == '\\' || c == '\x27' || c == '"' || c == '$' || c == ' '

/-- Reads a value. Names of variables are replaced by what `resolve` says; within double
quotes blanks and single quotes stand for themselves. None if the value is not well formed.
The value read so far is given backwards. -/
def value? (resolve : List Char → List Char) :
    (isWeak : Bool) → Mode → (before : List Char) → List Char → Option (List Char)
  | _, .braced _, _, [] => none
  | _, .strong, _, [] => none
  | true, _, _, [] => none
  | false, .named name, before, [] => some (before.reverse ++ resolve name)
  | false, _, before, [] => some before.reverse
  | isWeak, mode, before, c :: rest =>
      match mode with
      | .finished =>
          if c = ' ' ∨ c = '\t' then value? resolve isWeak .finished before rest
          else if c = '#' then some before.reverse
          else none
      | .escaped =>
          if isEscapable c then value? resolve isWeak .plain (c :: before) rest
          else if c = 'n' then value? resolve isWeak .plain ('\n' :: before) rest
          else none
      | .strong =>
          if c = '\x27' then value? resolve isWeak .plain before rest
          else value? resolve isWeak .strong (c :: before) rest
      | .named name =>
          if Text.isAlphanumeric c then value? resolve isWeak (.named (name ++ [c])) before rest
          else if c = '\x7b' ∧ name = [] then value? resolve isWeak (.braced []) before rest
          else
            let replaced := (resolve name).reverse ++ before
            if c = '$' then value? resolve isWeak (.named []) replaced rest
            else value? resolve isWeak .plain (c :: replaced) rest
      | .braced name =>
          if c = '\x7d' then
            value? resolve isWeak .plain ((resolve name).reverse ++ before) rest
          else value? resolve isWeak (.braced (name ++ [c])) before rest
      | .plain =>
          if c = '$' then value? resolve isWeak (.named []) before rest
          else if c = '\\' then value? resolve isWeak .escaped before rest
          else if c = '"' then value? resolve (!isWeak) .plain before rest
          else if isWeak then value? resolve isWeak .plain (c :: before) rest
          else if c = '\x27' then value? resolve isWeak .strong before rest
          else if c = ' ' ∨ c = '\t' then value? resolve isWeak .finished before rest
          else value? resolve isWeak .plain (c :: before) rest

/-! ## Assignments -/

/-- Takes the name of a variable off the front. -/
def name? (line : List Char) : Option (List Char × List Char) :=
  let isMore : Char → Bool := fun c => c.isAlphanum || c == '_' || c == '.'
  match line with
  | c :: _ =>
      if c.isAlpha || c == '_' then some (line.takeWhile isMore, line.dropWhile isMore) else none
  | [] => none

/-- What a line says. -/
inductive Line where
  | nothing
  | unreadable
  | assignment (name value : List Char)

/-- Reads what follows the equals sign of an assignment. -/
def assignment (resolve : List Char → List Char) (name rest : List Char) : Line :=
  match Text.skipBlank rest with
  | [] => .assignment name []
  | c :: value =>
      if c = '#' then .assignment name []
      else
        match value? resolve false .plain [] (c :: value) with
        | some value => .assignment name value
        | none => .unreadable

/-- Reads a line. The word `export` may stand before the name, unless it is the name. -/
def line (resolve : List Char → List Char) (text : List Char) : Line :=
  match Text.trimBlank text with
  | [] => .nothing
  | '#' :: _ => .nothing
  | trimmed =>
      match name? trimmed with
      | none => .unreadable
      | some (name, rest) =>
          match Text.skipBlank rest with
          | '=' :: value => assignment resolve name value
          | other =>
              if name = "export".toList then
                match name? other with
                | none => .unreadable
                | some (exported, afterName) =>
                    match Text.skipBlank afterName with
                    | '=' :: value => assignment resolve exported value
                    | _ => .unreadable
              else .unreadable

/-! ## Files -/

/-- The variables while a file is read: those of the environment, and those that the file
assigned, the latest first. -/
structure Variables where
  environment : Environment
  assigned : List (String × List Char)

namespace Variables

/-- The value of a variable: the environment comes first, and without any value it is
empty. -/
def resolve (known : Variables) (name : List Char) : List Char :=
  match Settings.textOf known.environment (String.ofList name) with
  | some value => value.toList
  | none => (known.assigned.lookup (String.ofList name)).getD []

/-- Assigns a variable; in the environment only if it is not set there. The environment holds
no value with a NUL. -/
def assign (known : Variables) (name value : List Char) : Option Variables :=
  let assigned := (String.ofList name, value) :: known.assigned
  if (Settings.textOf known.environment (String.ofList name)).isSome then
    some ⟨known.environment, assigned⟩
  else if value.contains '\x00' then none
  else
    let environment : Environment := fun other =>
      if other = String.ofList name then some (Text.bytes value)
      else known.environment other
    some ⟨environment, assigned⟩

/-- Goes through lines up to the first that cannot be read. None if a variable cannot be
assigned. -/
def readLines (known : Variables) : List (Option (List Char)) → Option Variables
  | [] => some known
  | none :: _ => some known
  | some text :: others =>
      match line known.resolve text with
      | .nothing => readLines known others
      | .unreadable => some known
      | .assignment name value =>
          match known.assign name value with
          | none => none
          | some next => readLines next others

end Variables

/-- A file without the byte order mark at its front. -/
def withoutMark : List UInt8 → List UInt8
  | 0xEF :: 0xBB :: 0xBF :: rest => rest
  | content => content

/-- The environment with the variables that a file assigns. None if it assigns one that the
environment cannot hold. -/
def load? (environment : Environment) (content : List UInt8) : Option Environment :=
  (Variables.readLines ⟨environment, []⟩
    (logicalLines [] .plain (rawLines (withoutMark content)))).map Variables.environment

end WebCompat.Dotenv
