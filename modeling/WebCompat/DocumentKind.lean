import WebCompat.Text.Blank
import WebCompat.Text.Split
import WebCompat.Text.Utf8

/-!
Kinds of documents, as an editor names them or as a file name tells them.
-/

namespace WebCompat

/-- What a document is written in. -/
inductive DocumentKind where
  | html
  | css
  | scss
  | less
  | javascript
  | typescript
  | javascriptReact
  | typescriptReact
  | other
deriving DecidableEq, Repr

namespace DocumentKind

/-- Every kind, in display order. -/
def all : List DocumentKind :=
  [.html, .css, .scss, .less, .javascript, .typescript, .javascriptReact, .typescriptReact, .other]

/-- The language identifier of a kind. -/
def id : DocumentKind → String
  | .html => "html"
  | .css => "css"
  | .scss => "scss"
  | .less => "less"
  | .javascript => "javascript"
  | .typescript => "typescript"
  | .javascriptReact => "javascriptreact"
  | .typescriptReact => "typescriptreact"
  | .other => "other"

/-- The kind with a given language identifier, whatever the case of its ASCII letters. -/
def ofId? (text : String) : Option DocumentKind :=
  all.find? fun kind => kind.id == text.map Char.toLower

/-- The kind that a language identifier names, white space around it aside; an unknown
identifier names `other`. -/
def ofLanguageId (text : String) : DocumentKind :=
  (ofId? (Text.trim text)).getD .other

/-- Style sheets and the dialects that compile to them. -/
def isStylesheet : DocumentKind → Bool
  | .css | .scss | .less => true
  | _ => false

/-- Scripts that embed markup. -/
def isJsx : DocumentKind → Bool
  | .javascriptReact | .typescriptReact => true
  | _ => false

/-- Scripts of every dialect. -/
def isScript : DocumentKind → Bool
  | .javascript | .typescript => true
  | kind => kind.isJsx

/-! ## File names

A path is a sequence of bytes, since a file name need not be text. -/

def extensions : List (String × DocumentKind) :=
  [("html", .html), ("htm", .html), ("css", .css), ("scss", .scss), ("less", .less),
   ("js", .javascript), ("mjs", .javascript), ("cjs", .javascript),
   ("ts", .typescript), ("mts", .typescript), ("cts", .typescript),
   ("jsx", .javascriptReact), ("tsx", .typescriptReact)]

def lowercaseByte (b : UInt8) : UInt8 :=
  if 65 ≤ b && b ≤ 90 then b + 32 else b

/-- The kind of a file name extension, whatever the case of its ASCII letters. -/
def ofExtension (extension : List UInt8) : DocumentKind :=
  match extensions.find? fun entry => Text.stringBytes entry.1 == extension.map lowercaseByte with
  | some entry => entry.2
  | none => .other

/-- The last component of a path, if it names a file or a directory: separators and
single dots at the end do not count, and two dots name no file. -/
def fileName? (path : List UInt8) : Option (List UInt8) :=
  match ((Text.splitAt 47 path).filter fun part => part != [] && part != [46]).getLast? with
  | some [46, 46] => none
  | name => name

/-- The part of a file name after its last dot, unless that dot is its first character. -/
def extension? (name : List UInt8) : Option (List UInt8) :=
  let reversed := name.reverse
  match reversed.dropWhile (· != 46) with
  | _ :: _ :: _ => some (reversed.takeWhile (· != 46)).reverse
  | _ => none

/-- The kind that a path tells by its extension. -/
def ofPath (path : List UInt8) : DocumentKind :=
  match (fileName? path).bind extension? with
  | some extension => ofExtension extension
  | none => .other

end DocumentKind

end WebCompat
