import WebCompat.Number.Limit
import WebCompat.Number.Whole

/-!
The arguments of the command: a subcommand, its file, and options before or after the file.
An option with a value takes it from the rest of its own word or from the next word, which
must not look like an option itself.
-/

namespace WebCompat.Arguments

/-! ## Options in general -/

/-- What an option takes. -/
inductive OptionKind where
  /-- Nothing, and it stands at most once. -/
  | flag
  /-- Nothing, and it may be repeated. -/
  | counted
  /-- A value of a certain form, and it stands at most once. -/
  | valued (accepts : String → Bool)
  /-- Nothing; all else is passed over. -/
  | help

/-- An option: its name, which may be written behind two hyphens unless it only has a letter,
and what it takes. -/
structure OptionForm where
  name : String
  hasLongForm : Bool
  letter : Option Char
  kind : OptionKind

/-- Why there is nothing to run. -/
inductive Stop where
  | usage
  | help
deriving DecidableEq, Repr

/-- What was given: options with their values in order, and a word that is no option. -/
structure Given where
  options : List (String × String)
  word : Option String

namespace Given

def has (given : Given) (name : String) : Bool :=
  (given.options.lookup name).isSome

def add (given : Given) (form : OptionForm) (value : String) : Except Stop Given :=
  let added := { given with options := given.options ++ [(form.name, value)] }
  match form.kind with
  | .help => .error .help
  | .counted => .ok added
  | .flag => if given.has form.name then .error .usage else .ok added
  | .valued accepts =>
      if given.has form.name || !accepts value then .error .usage else .ok added

/-- Adds a word that is no option: there is at most one, and it is not empty. -/
def addWord (given : Given) (word : String) : Except Stop Given :=
  if given.word.isSome || word.isEmpty then .error .usage
  else .ok { given with word := some word }

end Given

def OptionForm.isValued (form : OptionForm) : Bool :=
  match form.kind with
  | .valued _ => true
  | _ => false

/-- Reads the letters behind a single hyphen: options without a value, then perhaps one with
a value, which is the rest behind an equals sign if there is one. An option whose value is
still to come is handed back. -/
def letters (forms : List OptionForm) (given : Given) :
    List Char → Except Stop (Given × Option OptionForm)
  | [] => .ok (given, none)
  | c :: rest =>
      match forms.find? fun form => form.letter == some c with
      | none => .error .usage
      | some form =>
          if form.isValued then
            match rest with
            | [] => .ok (given, some form)
            | '=' :: value => (given.add form (String.ofList value)).map fun next => (next, none)
            | value => (given.add form (String.ofList value)).map fun next => (next, none)
          else
            match given.add form "" with
            | .error stop => .error stop
            | .ok next => letters forms next rest

/-- Reads a word behind two hyphens: the name of an option, perhaps with a value behind an
equals sign. -/
def longOption (forms : List OptionForm) (given : Given) (word : List Char) :
    Except Stop (Given × Option OptionForm) :=
  let name := String.ofList (word.takeWhile (· != '='))
  let found := forms.find? fun form => form.hasLongForm && form.name == name
  match found, word.dropWhile (· != '=') with
  | none, _ => .error .usage
  | some form, [] =>
      if form.isValued then .ok (given, some form)
      else (given.add form "").map fun next => (next, none)
  | some form, _ :: value =>
      if form.isValued then
        (given.add form (String.ofList value)).map fun next => (next, none)
      else .error .usage

/-- Whether a word looks like an option: a hyphen alone does not. -/
def looksLikeOption (word : String) : Bool :=
  match word.toList with
  | '-' :: _ :: _ => true
  | _ => false

/-- Reads words up to the end, or up to a word for which `isLast` holds; the words behind it
are handed back with it. -/
def words (forms : List OptionForm) (isLast : String → Bool) :
    (pending : Option OptionForm) → Given → List String →
      Except Stop (Given × Option (String × List String))
  | some _, _, [] => .error .usage
  | none, given, [] => .ok (given, none)
  | some form, given, word :: rest =>
      if looksLikeOption word then .error .usage
      else
        match given.add form word with
        | .error stop => .error stop
        | .ok next => words forms isLast none next rest
  | none, given, word :: rest =>
      if isLast word then .ok (given, some (word, rest))
      else
        match word.toList with
        | ['-', '-'] => (rest.foldlM Given.addWord given).map fun next => (next, none)
        | '-' :: '-' :: option =>
            match longOption forms given option with
            | .error stop => .error stop
            | .ok (next, pending) => words forms isLast pending next rest
        | '-' :: c :: option =>
            match letters forms given (c :: option) with
            | .error stop => .error stop
            | .ok (next, pending) => words forms isLast pending next rest
        | _ =>
            match given.addWord word with
            | .error stop => .error stop
            | .ok next => words forms isLast none next rest

/-! ## The command -/

/-- How an analysis is written. -/
inductive OutputFormat where
  | terminal
  | json
deriving DecidableEq, Repr

/-- What is to be done. -/
inductive Command where
  | analyze (file : String) (language : Option String) (isOffline : Bool) (format : OutputFormat)
  | hover (file : String) (line column : Nat) (language : Option String) (isJson : Bool)
deriving DecidableEq, Repr

/-- Options that stand anywhere. They say how much is logged and how, which changes nothing in
what is reported. -/
def globalForms : List OptionForm :=
  [⟨"verbosity", false, some 'v', .counted⟩, ⟨"json-logs", true, none, .flag⟩,
    ⟨"help", true, some 'h', .help⟩]

/-- The number of a line or a column that a word denotes. -/
def index? (word : String) : Option Nat :=
  (Number.whole Number.largest64 word.toList).toOption

def formats : List (String × OutputFormat) :=
  [("terminal", .terminal), ("json", .json)]

def languageForm : OptionForm :=
  ⟨"language", true, some 'l', .valued fun _ => true⟩

def analyzeForms : List OptionForm :=
  [languageForm, ⟨"offline", true, none, .flag⟩,
    ⟨"format", true, some 'f', .valued fun word => (formats.lookup word).isSome⟩] ++ globalForms

def hoverForms : List OptionForm :=
  [⟨"line", true, none, .valued fun word => (index? word).isSome⟩,
    ⟨"column", true, none, .valued fun word => (index? word).isSome⟩,
    languageForm, ⟨"json", true, none, .flag⟩] ++ globalForms

/-- The file, which has to be given. -/
def file (given : Given) : Except Stop String :=
  match given.word with
  | some word => .ok word
  | none => .error .usage

/-- The number given with an option that has to be there. -/
def index (given : Given) (name : String) : Except Stop Nat :=
  match (given.options.lookup name).bind index? with
  | some value => .ok value
  | none => .error .usage

/-- Reads the words behind the name of a subcommand. -/
def afterName (forms : List OptionForm) (rest : List String) : Except Stop Given :=
  (words forms (fun _ => false) none ⟨[], none⟩ rest).map Prod.fst

/-- Reads the words behind `analyze`. -/
def analyze (rest : List String) : Except Stop Command := do
  let given ← afterName analyzeForms rest
  let format :=
    ((given.options.lookup "format").bind fun word => formats.lookup word).getD .terminal
  return .analyze (← file given) (given.options.lookup "language") (given.has "offline") format

/-- Reads the words behind `hover`. -/
def hover (rest : List String) : Except Stop Command := do
  let given ← afterName hoverForms rest
  let path ← file given
  let line ← index given "line"
  let column ← index given "column"
  return .hover path line column (given.options.lookup "language") (given.has "json")

/-- Reads the words behind `help`: at most the name of one subcommand. -/
def helpOn : List String → Stop
  | [] => .help
  | [name] => if name ∈ ["analyze", "hover", "help"] then .help else .usage
  | _ => .usage

/-- What the arguments ask for. The first word that is no option names a subcommand. -/
def command (arguments : List String) : Except Stop Command := do
  let (_, found) ←
    words globalForms (fun word => !looksLikeOption word) none ⟨[], none⟩ arguments
  match found with
  | some ("analyze", rest) => analyze rest
  | some ("hover", rest) => hover rest
  | some ("help", rest) => .error (helpOn rest)
  | _ => .error .usage

end WebCompat.Arguments
