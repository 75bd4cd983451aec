/-!
The lines of a text. A line feed ends a line, and a carriage return directly before it
belongs to the ending. What follows the last line feed is a line only if it is not empty.
-/

namespace WebCompat.Text

/-- Drops one carriage return from the front of a line given backwards. -/
def dropReturn : List Char → List Char
  | '\r' :: line => line
  | line => line

/-- The lines of what follows `current`, the part read of the first line, given
backwards. -/
def linesAfter (current : List Char) : List Char → List (List Char)
  | [] => if current.isEmpty then [] else [current.reverse]
  | c :: s =>
      if c = '\n' then (dropReturn current).reverse :: linesAfter [] s
      else linesAfter (c :: current) s

def lines (s : String) : List String :=
  (linesAfter [] s.toList).map String.ofList

end WebCompat.Text
