import WebCompat.Net.Percent
import WebCompat.Net.Scheme
import WebCompat.Text.Split

/-!
Paths of addresses in normal form: segments with points are followed, and drives are roots that
nothing leads out of.
-/

namespace WebCompat.Net.Path

open WebCompat.Text (joinWith splitAt)

/-! ## Segments -/

/-- A segment with its points written out. -/
def points (segment : List Char) : List Char :=
  match segment with
  | '%' :: '2' :: 'e' :: rest | '%' :: '2' :: 'E' :: rest => '.' :: points rest
  | c :: rest => c :: points rest
  | [] => []

/-- Whether a sign behind a letter makes it a drive. -/
def marksDrive (c : Char) : Bool :=
  c == ':' || c == '|'

/-- Whether a segment is a drive: a letter with a colon or a bar. -/
def isDrive (segment : List Char) : Bool :=
  match segment with
  | [letter, sign] => letter.isAlpha && marksDrive sign
  | _ => false

/-- Whether a segment is a drive, perhaps with more behind a backslash. -/
def beginsWithDrive (segment : List Char) : Bool :=
  isDrive (segment.take 2) && (segment.drop 2).head?.all (· == '\\')

/-- A drive written with a colon. -/
def normalDrive (segment : List Char) : List Char :=
  match segment with
  | [letter, '|'] => if letter.isAlpha then [letter, ':'] else segment
  | _ => segment

/-! ## Following -/

/-- The segments without the last one, which is given first; a drive stays. -/
def goBack (before : List (List Char)) : List (List Char) :=
  match before with
  | [] => []
  | segment :: others => if beginsWithDrive segment then before else others

/-- A segment as it is written. The first one of a file may be a drive. -/
def written (kind : SchemeClass) (before : List (List Char)) (segment : List Char) : List Char :=
  let encoded := percentEncode isReservedInPath segment
  if kind = .file ∧ before.isEmpty then normalDrive encoded else encoded

/-- Goes through the segments of a path, the segments before being given backwards: one point
stays, two points go back, and either at the end leaves an empty segment. -/
def walk (kind : SchemeClass) (before : List (List Char)) :
    List (List Char) → List (List Char)
  | [] => before.reverse
  | [last] =>
      if points last = ['.'] then ([] :: before).reverse
      else if points last = ['.', '.'] then ([] :: goBack before).reverse
      else (written kind before last :: before).reverse
  | segment :: others =>
      if points segment = ['.'] then walk kind before others
      else if points segment = ['.', '.'] then walk kind (goBack before) others
      else walk kind (written kind before segment :: before) others

/-- The segments of a path in normal form. A slash in front is no separator. -/
def segments (kind : SchemeClass) (text : List Char) : List (List Char) :=
  let slashed := text.map fun c => if kind.isSlash c then '/' else c
  walk kind [] (splitAt '/' (if slashed.head? = some '/' then slashed.tail else slashed))

/-- The text of segments. The path of a file has a single slash in front. -/
def ofSegments (kind : SchemeClass) (segments : List (List Char)) : List Char :=
  let joined := joinWith ['/'] segments
  '/' :: if kind = .file then joined.dropWhile (· == '/') else joined

def normal (kind : SchemeClass) (text : List Char) : List Char :=
  ofSegments kind (segments kind text)

def leadsToDrive (segments : List (List Char)) : Bool :=
  segments.head?.any isDrive

end WebCompat.Net.Path
