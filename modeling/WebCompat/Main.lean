import WebCompat.Shell.Run

/-!
The command line: the files and variables of the process, and no network, so that no request
is answered.
-/

namespace WebCompat.Surroundings

/-- Why a file cannot be read, by the number that the system gives the error. The number comes
negated if the file could not be opened. -/
def fileError (code : UInt32) (reason : String) : FileError :=
  match if code < 0x80000000 then code else 0 - code with
  | 2 => .missing
  | 13 => .other "Permission denied (os error 13)"
  | 20 => .notDirectory
  | 21 => .isDirectory
  | 36 => .nameTooLong
  | 40 => .other "Too many levels of symbolic links (os error 40)"
  | number => .other (reason ++ " (os error " ++ toString number ++ ")")

/-- The bytes of a file, or why they cannot be read. -/
def readFile (path : String) : IO (Except FileError (List UInt8)) := do
  try
    return .ok (← IO.FS.readBinFile path).toList
  catch error =>
    match error with
    | .noFileOrDirectory _ code reason | .inappropriateType _ code reason
    | .invalidArgument _ code reason | .permissionDenied _ code reason =>
        return .error (fileError code reason)
    | other => return .error (.other (toString other))

/-- The variables of the process, as the system lists them. -/
def environment : IO Environment := do
  let content ← readFile "/proc/self/environ"
  let entries := (Text.splitAt 0 (content.toOption.getD [])).filterMap fun entry =>
    (Text.ofBytes? (entry.takeWhile (· != 61))).map fun name =>
      (name, (entry.dropWhile (· != 61)).drop 1)
  return fun name => entries.lookup name

/-- How many directories there are above the current one. -/
def levels : IO Nat := do
  let names := Text.splitAt '/' (toString (← IO.currentDir)).toList
  return (names.filter fun name => !name.isEmpty).length

/-- The files that the command may read: those that the arguments may name, and each file `.env`
from the current directory upwards. -/
def readable (arguments : List String) : IO Files := do
  let levels ← levels
  let paths := (List.range (levels + 1)).map (Files.pathAbove ".env") ++ arguments
  let contents ← paths.mapM fun path => do return (path, ← readFile path)
  return ⟨fun path => (contents.lookup path).getD (.error .missing), levels⟩

end WebCompat.Surroundings

open WebCompat in
def main (arguments : List String) : IO UInt32 := do
  let world : World :=
    ⟨← Surroundings.readable arguments, ← Surroundings.environment, .silent⟩
  let (outcome, _) := run world arguments
  IO.print outcome.output
  if let some error := outcome.error then
    IO.eprintln ("Error: " ++ error)
  if outcome.exitCode = 2 then
    IO.eprint Outcome.usage
  return UInt32.ofNat outcome.exitCode
