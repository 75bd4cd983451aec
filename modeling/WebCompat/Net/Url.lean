import WebCompat.Net.Authority
import WebCompat.Net.Form
import WebCompat.Net.Path
import WebCompat.Text.Blank

/-!
Absolute addresses: reading them in whatever form a reader may have typed, and writing them
in one.
-/

namespace WebCompat.Net

/-- An absolute address in its parts. The path is kept with its slashes. -/
structure Url where
  scheme : List Char
  authority : Option Authority
  path : List Char
  query : Option (List Char)
  fragment : Option (List Char)
deriving DecidableEq, Repr

namespace Url

/-! ## Reading -/

/-- A text as it is read: without blanks and control characters around it, and without tabs
and line breaks anywhere. -/
def cleaned (text : List Char) : List Char :=
  (Text.trimWhile (fun c => c.toNat ≤ 0x20) text).filter fun c =>
    c != '\t' && c != '\n' && c != '\r'

/-- Splits the scheme off, in lower case. -/
def splitScheme (text : List Char) : Option (List Char × List Char) :=
  let isMore : Char → Bool := fun c => c.isAlphanum || c == '+' || c == '-' || c == '.'
  match text.dropWhile isMore with
  | ':' :: rest =>
      match text.takeWhile isMore with
      | first :: more =>
          if first.isAlpha then some ((first :: more).map Char.toLower, rest) else none
      | [] => none
  | _ => none

/-- Splits a text at the first occurrence of a character. -/
def splitFirst (separator : Char) (text : List Char) : List Char × Option (List Char) :=
  (text.takeWhile (· != separator), (text.dropWhile (· != separator)).tail?)

/-- Splits a text at the first character that separates segments. -/
def splitPath (kind : SchemeClass) (text : List Char) : List Char × List Char :=
  (text.takeWhile fun c => !kind.isSlash c, text.dropWhile fun c => !kind.isSlash c)

/-- What is behind two separators, if a text begins with two. -/
def afterTwoSlashes? (kind : SchemeClass) (text : List Char) : Option (List Char) :=
  match text with
  | a :: b :: rest => if kind.isSlash a && kind.isSlash b then some rest else none
  | _ => none

/-- Reads an authority and the path behind it: some schemes have a path in any case. The address
ends behind the text if `isAtEnd` holds. -/
def withAuthority? (kind : SchemeClass) (scheme : List Char) (isAtEnd : Bool)
    (text : List Char) : Option (Option Authority × List Char) :=
  let (front, back) := splitPath kind text
  (Authority.ofText? kind scheme (isAtEnd && back.isEmpty) front).map fun read =>
    let path := read.2 ++ back
    (some read.1, if path.isEmpty && !kind.isSpecial then [] else Path.normal kind path)

/-- The host of a file; the own machine is no host. -/
def fileHost? (text : List Char) : Option (Option Host) :=
  if text.isEmpty then some none
  else
    (Host.ofText? text).map fun host =>
      if host = .name "localhost".toList then none else some host

/-- Reads the host and the path of a file. A drive is no host, and has none. -/
def ofFile? (text : List Char) : Option (Option Authority × List Char) :=
  let (front, back) := splitPath .file text
  if Path.isDrive front then some (some .none, Path.normal .file text)
  else
    (fileHost? front).map fun host =>
      let segments := Path.segments .file back
      (some { Authority.none with host := if Path.leadsToDrive segments then none else host },
        Path.ofSegments .file segments)

/-- Reads what follows the scheme, up to the query: the authority and the path. -/
def ofHierarchy? (kind : SchemeClass) (scheme : List Char) (isAtEnd : Bool) (text : List Char) :
    Option (Option Authority × List Char) :=
  match kind, afterTwoSlashes? kind text with
  | .web, _ => withAuthority? kind scheme isAtEnd (text.dropWhile kind.isSlash)
  | .file, some rest => ofFile? rest
  | .file, none => some (some .none, Path.normal kind text)
  | .other, some rest => withAuthority? kind scheme isAtEnd rest
  | .other, none =>
      some (none,
        if text.head? = some '/' then Path.normal kind text else percentEncode isControl text)

/-- The absolute address that a text denotes. -/
def ofText? (text : String) : Option Url := do
  let (scheme, rest) ← splitScheme (cleaned text.toList)
  let kind := SchemeClass.ofScheme scheme
  let (beforeFragment, fragment) := splitFirst '#' rest
  let (hierarchy, query) := splitFirst '?' beforeFragment
  let (authority, path) ←
    ofHierarchy? kind scheme (query.isNone && fragment.isNone) hierarchy
  return {
    scheme := scheme
    authority := authority
    path := path
    query := query.map (percentEncode (isReservedInQuery kind.isSpecial))
    fragment := fragment.map (percentEncode isReservedInFragment) }

/-! ## Writing -/

/-- The path and the query of an address: what a service is asked for. -/
def target (url : Url) : List Char :=
  url.path ++ ((url.query.map fun query => '?' :: query).getD [])

/-- The characters of an address. A path that would read as an authority has a point in
front. -/
def chars (url : Url) : List Char :=
  let front :=
    match url.authority with
    | some authority => ['/', '/'] ++ authority.chars
    | none => if ['/', '/'].isPrefixOf url.path then ['/', '.'] else []
  url.scheme ++ ':' :: front ++ url.target
    ++ ((url.fragment.map fun fragment => '#' :: fragment).getD [])

def text (url : Url) : String :=
  String.ofList url.chars

def host? (url : Url) : Option Host :=
  url.authority.bind Authority.host

def withField (url : Url) (name value : String) : Url :=
  { url with query := some (Form.append url.query name.toList value.toList) }

/-! ## Asking -/

/-- The address without the credentials that can be sent apart from it. -/
def withoutCredentials (url : Url) : Url :=
  { url with
    authority := url.authority.map fun authority =>
      if authority.credentials.areSeparable then { authority with credentials := .none }
      else authority }

/-- Whether the scheme of an address is one of the web. -/
def isWeb (url : Url) : Bool :=
  url.scheme == "http".toList || url.scheme == "https".toList

/-- Whether a character may be in the name of a host and still not in a request. -/
def isUnsendable (c : Char) : Bool :=
  c == '"' || c == '\x60' || c == '\x7b' || c == '\x7d'

/-- The number of characters of the longest address in a request. -/
def longest : Nat := 65534

/-- Whether an address can be in a request. -/
def isSendable (url : Url) : Bool :=
  !(url.host?.any fun host => host.chars.any isUnsendable) && url.chars.length ≤ longest

/-- Whether an address can be asked over the web. -/
def isAskable (url : Url) : Bool :=
  url.isWeb && url.isSendable

end Url

end WebCompat.Net
