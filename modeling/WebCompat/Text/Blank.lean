/-!
White space in the sense of the Unicode property White_Space, and trimming by it.
-/

namespace WebCompat.Text

/-- The Unicode property White_Space: twenty-five code points. The zero-width space and
the byte order mark are not among them. -/
def isBlank (c : Char) : Bool :=
  let n := c.toNat
  (0x9 ≤ n && n ≤ 0xD) || n == 0x20 || n == 0x85 || n == 0xA0 || n == 0x1680
    || (0x2000 ≤ n && n ≤ 0x200A) || n == 0x2028 || n == 0x2029 || n == 0x202F
    || n == 0x205F || n == 0x3000

/-- What is left of a text after the white space at its front. -/
def skipBlank (s : List Char) : List Char :=
  s.dropWhile isBlank

theorem length_dropWhile_le (p : Char → Bool) (s : List Char) :
    (s.dropWhile p).length ≤ s.length :=
  (List.dropWhile_sublist p).length_le

theorem skipBlank_length_le (s : List Char) : (skipBlank s).length ≤ s.length :=
  length_dropWhile_le isBlank s

/-- A text without the characters of a class at either end. -/
def trimWhile (isOuter : Char → Bool) (s : List Char) : List Char :=
  ((s.dropWhile isOuter).reverse.dropWhile isOuter).reverse

def trimBlank (s : List Char) : List Char :=
  trimWhile isBlank s

def trim (s : String) : String :=
  String.ofList (trimBlank s.toList)

end WebCompat.Text
