/-!
Schemes of addresses, and how what follows them is read.
-/

namespace WebCompat.Net

/-- How the rest of an address is read: schemes with a host and a path, the scheme of files,
and all others. -/
inductive SchemeClass where
  | web
  | file
  | other
deriving DecidableEq, Repr

namespace SchemeClass

def ofScheme (scheme : List Char) : SchemeClass :=
  if scheme ∈ ["http".toList, "https".toList, "ws".toList, "wss".toList, "ftp".toList] then .web
  else if scheme = "file".toList then .file
  else .other

/-- Whether a backslash separates like a slash. -/
def isSpecial (kind : SchemeClass) : Bool :=
  kind != .other

/-- Whether a character separates the segments of a path. -/
def isSlash (kind : SchemeClass) (c : Char) : Bool :=
  c == '/' || (kind.isSpecial && c == '\\')

end SchemeClass

def usualPort? (scheme : List Char) : Option Nat :=
  match String.ofList scheme with
  | "http" | "ws" => some 80
  | "https" | "wss" => some 443
  | "ftp" => some 21
  | _ => none

end WebCompat.Net
