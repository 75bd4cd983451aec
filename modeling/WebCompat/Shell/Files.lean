import WebCompat.Text.Split
import WebCompat.Text.Utf8

/-!
Files as a command sees them: what reading a path yields, and a tree of files in which paths
are followed name by name.
-/

namespace WebCompat

/-- Why a path cannot be read. -/
inductive FileError where
  | missing
  | isDirectory
  | notDirectory
  | nameTooLong
  /-- The file is there but holds no text. -/
  | notText
  /-- The system says why, in its own words. -/
  | other (reason : String)
deriving DecidableEq, Repr

def FileError.message : FileError → String
  | .missing => "No such file or directory (os error 2)"
  | .isDirectory => "Is a directory (os error 21)"
  | .notDirectory => "Not a directory (os error 20)"
  | .nameTooLong => "File name too long (os error 36)"
  | .notText => "stream did not contain valid UTF-8"
  | .other reason => reason

/-- The files that can be read from the current directory. -/
structure Files where
  /-- The bytes of a file. -/
  read : (path : String) → Except FileError (List UInt8)
  /-- How many directories there are above the current one. -/
  levels : Nat

namespace Files

def readText (files : Files) (path : String) : Except FileError String := do
  match Text.ofBytes? (← files.read path) with
  | some text => return text
  | none => .error .notText

/-! ## Files above -/

/-- The path of a name in a directory above the current one. -/
def pathAbove (name : String) : (level : Nat) → String
  | 0 => name
  | level + 1 => "../" ++ pathAbove name level

/-- The bytes of the first of several files that is there; a directory counts as none. The search
ends at a path about which the system says anything else. -/
def firstOf? (files : Files) : List String → Option (List UInt8)
  | [] => none
  | path :: paths =>
      match files.read path with
      | .ok content => some content
      | .error .missing | .error .isDirectory => files.firstOf? paths
      | .error _ => none

/-- The bytes of the nearest file with a name, in the current directory or above it. -/
def nearest? (files : Files) (name : String) : Option (List UInt8) :=
  files.firstOf? ((List.range (files.levels + 1)).map (pathAbove name))

/-! ## Trees -/

/-- Where one gets by following names from a directory. -/
inductive Place where
  /-- A directory, by the names that lead to it. -/
  | directory (names : List (List Char))
  /-- A directory above the one where paths start, by how far it is. -/
  | above (levels : Nat)
  /-- A directory of the system, by the names that lead to it from the root. -/
  | system (names : List (List Char))
  | file (content : List UInt8)

/-- The files of a tree, each by the names that lead to it. -/
abbrev Tree := List (List (List Char) × List UInt8)

/-- What is known of the files of the system: the null device is empty. -/
def systemTree : Tree :=
  [(["dev".toList, "null".toList], [])]

/-- The most bytes that a name in a directory has. -/
def longestName : Nat := 255

/-- The most bytes that a path has. -/
def longestPath : Nat := 4095

/-- Whether a name is longer than names in a directory are. -/
def isTooLong (name : List Char) : Bool :=
  longestName < (Text.bytes name).length

/-- Follows one name within a directory of a tree, whose directories are the given places. -/
def enter (tree : Tree) (directory : List (List Char) → Place) (names : List (List Char))
    (name : List Char) : Except FileError Place :=
  let path := names ++ [name]
  match tree.lookup path with
  | some content => .ok (.file content)
  | none =>
      if isTooLong name then .error .nameTooLong
      else if tree.any fun entry => path.isPrefixOf entry.1 then .ok (directory path)
      else .error .missing

/-- The place two points lead to: what is above the root is the root. -/
def goUp : Place → Except FileError Place
  | .file _ => .error .notDirectory
  | .directory [] => .ok (.above 1)
  | .directory names => .ok (.directory names.dropLast)
  | .above levels => .ok (.above (levels + 1))
  | .system names => .ok (.system names.dropLast)

/-- The place a name leads to. -/
def goTo (tree : Tree) (name : List Char) : Place → Except FileError Place
  | .file _ => .error .notDirectory
  | .directory names => enter tree .directory names name
  | .above _ => enter [] .directory [] name
  | .system names => enter systemTree .system names name

/-- Follows one component of a path: nothing and a single point stay where there is a
directory. -/
def follow (tree : Tree) (place : Place) (component : List Char) : Except FileError Place :=
  if component = ['.', '.'] then goUp place
  else if component = [] ∨ component = ['.'] then
    match place with
    | .file _ => .error .notDirectory
    | _ => .ok place
  else goTo tree component place

/-- What a path leads to in a tree. A path from the root leads through the system. -/
def readTree (tree : Tree) (path : String) : Except FileError (List UInt8) :=
  if longestPath < path.utf8ByteSize then .error .nameTooLong
  else
    match Text.splitAt '/' path.toList with
    | [[]] => .error .missing
    | parts =>
        let start := if path.toList.head? = some '/' then Place.system [] else Place.directory []
        match parts.foldlM (follow tree) start with
        | .error error => .error error
        | .ok (.file content) => .ok content
        | .ok _ => .error .isDirectory

/-- The files of a tree. Nothing is known of what stands above it. -/
def ofTree (tree : Tree) : Files :=
  ⟨readTree tree, 0⟩

/-- The files with the given paths. -/
def ofEntries (entries : List (String × List UInt8)) : Files :=
  ofTree (entries.map fun entry => (Text.splitAt '/' entry.1.toList, entry.2))

end Files

end WebCompat
