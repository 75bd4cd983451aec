import WebCompat.Json.Printer
import WebCompat.Report.Cursor
import WebCompat.Report.Terminal
import WebCompat.Shell.Arguments
import WebCompat.Shell.Dotenv
import WebCompat.Shell.Files

/-!
The command: what it writes and how it ends, given its arguments, the files and the
variables that it sees, and a service.
-/

namespace WebCompat

open Arguments (Command OutputFormat Stop)

/-- Everything around the command. -/
structure World where
  files : Files
  environment : Environment
  service : Service

/-- Why the command failed. -/
inductive RunError where
  | file (error : FileError)
  | setup (error : SetupError)
  /-- A line or a column is zero. -/
  | notFromOne
  | noWord (line column : Nat)
deriving DecidableEq, Repr

def RunError.message : RunError → String
  | .file error => error.message
  | .setup error => error.message
  | .notFromOne => "line and column are 1-based"
  | .noWord line column =>
      "No word at line " ++ toString line ++ ", column " ++ toString column

/-- What the command writes. -/
abbrev Written := Except RunError String

namespace World

/-- The world in which the variables of the nearest file `.env` are set as well, if they can
be. -/
def withDotenv? (world : World) : Option World :=
  match world.files.nearest? ".env" with
  | some content =>
      (Dotenv.load? world.environment content).map fun environment =>
        { world with environment := environment }
  | none => some world

/-- The text of a file, and its kind: the language if one is given, else what the path
tells. -/
def document (world : World) (path : String) (language : Option String) :
    Except RunError (DocumentKind × String) := do
  let text ← (world.files.readText path).mapError .file
  return ((language.map DocumentKind.ofLanguageId).getD
    (DocumentKind.ofPath (Text.stringBytes path)), text)

/-- The client that the variables ask for. -/
def client (world : World) : Except RunError Client :=
  ((Settings.ofEnvironment world.environment).bind Client.ofSettings).mapError .setup

def analysisText (format : OutputFormat) (analysis : Analysis) : String :=
  match format with
  | .terminal => Terminal.text analysis
  | .json => analysis.toValue.pretty ++ "\n"

def analyze (world : World) (path : String) (language : Option String) (isOffline : Bool)
    (format : OutputFormat) : Written × List Request :=
  match world.document path language with
  | .error error => (.error error, [])
  | .ok (kind, text) =>
      if isOffline then (.ok (analysisText format (.offline kind text)), [])
      else
        match world.client with
        | .error error => (.error error, [])
        | .ok client =>
            let answer := Analysis.ofDocument world.service client kind text []
            (.ok (analysisText format answer.1), answer.2)

def hoverText (isJson : Bool) (report : HoverReport) : String :=
  (if isJson then report.toValue.pretty else Markdown.hover report) ++ "\n"

/-- Reports on the word at a place of a file. -/
def hover (world : World) (path : String) (line column : Nat) (language : Option String)
    (isJson : Bool) : Written × List Request :=
  if line = 0 ∨ column = 0 then (.error .notFromOne, [])
  else
    match world.document path language with
    | .error error => (.error error, [])
    | .ok (kind, text) =>
        match world.client with
        | .error error => (.error error, [])
        | .ok client =>
            match
              HoverReport.at? world.service client kind text (line - 1) (column - 1) [] with
            | (some report, requests) => (.ok (hoverText isJson report), requests)
            | (none, requests) => (.error (.noWord line column), requests)

/-- Does what was asked for. -/
def perform (world : World) : Command → Written × List Request
  | .analyze path language isOffline format => world.analyze path language isOffline format
  | .hover path line column language isJson => world.hover path line column language isJson

end World

/-- How the command ended: its exit code, what it wrote, and the error if it failed. -/
structure Outcome where
  exitCode : Nat
  output : String
  error : Option String
deriving DecidableEq, Repr

namespace Outcome

def usage : String :=
  "Usage: baseline analyze [OPTIONS] <FILE>\n"
    ++ "       baseline hover [OPTIONS] --line <LINE> --column <COLUMN> <FILE>\n"

/-- The outcome of what was written. -/
def ofWritten : Written → Outcome
  | .ok output => ⟨0, output, none⟩
  | .error error => ⟨1, "", some error.message⟩

/-- The outcome of arguments that ask for nothing to run. -/
def ofStop : Stop → Outcome
  | .usage => ⟨2, "", none⟩
  | .help => ⟨0, usage, none⟩

/-- The outcome when the environment cannot hold what a file `.env` assigns. -/
def aborted : Outcome :=
  ⟨101, "", none⟩

end Outcome

/-- Runs the command, and yields the requests that it made. The variables are set before the
arguments are read. -/
def run (world : World) (arguments : List String) : Outcome × List Request :=
  match world.withDotenv? with
  | none => (.aborted, [])
  | some ready =>
      match Arguments.command arguments with
      | .error stop => (.ofStop stop, [])
      | .ok command =>
          let answer := ready.perform command
          (.ofWritten answer.1, answer.2)

end WebCompat
