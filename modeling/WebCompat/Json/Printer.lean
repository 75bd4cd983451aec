import WebCompat.Json.Value

/-!
Writing values: compactly on one line, or with a line for each item and member. Text is
written as it is except for quotes, backslashes and control characters.
-/

namespace WebCompat.Json

/-- A number in base sixteen with at least two digits. -/
def twoHexDigits (n : Nat) : List Char :=
  let digits := Nat.toDigits 16 n
  List.replicate (2 - digits.length) '0' ++ digits

/-- A character as it stands within a quoted text. Quotes, backslashes and the five control
characters with a letter of their own take a backslash; other control characters are
written by number. -/
def escaped (c : Char) : List Char :=
  if c = '"' then ['\\', '"']
  else if c = '\\' then ['\\', '\\']
  else if c = '\x08' then ['\\', 'b']
  else if c = '\x0c' then ['\\', 'f']
  else if c = '\n' then ['\\', 'n']
  else if c = '\r' then ['\\', 'r']
  else if c = '\t' then ['\\', 't']
  else if c.toNat < 0x20 then ['\\', 'u', '0', '0'] ++ twoHexDigits c.toNat
  else [c]

/-- The characters of a quoted text. -/
def literal (text : String) : List Char :=
  '"' :: text.toList.flatMap escaped ++ ['"']

def commaSeparated : List (List Char) → List Char
  | [] => []
  | [piece] => piece
  | piece :: pieces => piece ++ ',' :: commaSeparated pieces

namespace Value

mutual

/-- The characters of a value without any white space. -/
def chars : Value → List Char
  | .null => ['n', 'u', 'l', 'l']
  | .bool true => ['t', 'r', 'u', 'e']
  | .bool false => ['f', 'a', 'l', 's', 'e']
  | .number value => value.text.toList
  | .text value => literal value
  | .list items => '[' :: commaSeparated (itemsChars items) ++ [']']
  | .object members => '\x7b' :: commaSeparated (membersChars members) ++ ['\x7d']

/-- The characters of each item of a list. -/
def itemsChars : List Value → List (List Char)
  | [] => []
  | item :: items => item.chars :: itemsChars items

/-- The characters of each member of an object: name, colon, value. -/
def membersChars : List (String × Value) → List (List Char)
  | [] => []
  | (name, value) :: members => (literal name ++ ':' :: value.chars) :: membersChars members

end

/-- The text of a value on one line. -/
def compact (value : Value) : String :=
  String.ofList value.chars

/-- A line break and two blanks for each level. -/
def lineBreak (level : Nat) : String :=
  String.ofList ('\n' :: List.replicate (2 * level) ' ')

/-- Lines between brackets, each one level in; nothing between the brackets if there are no
lines. -/
def bracketed (left right : String) (level : Nat) (lines : List String) : String :=
  if lines.isEmpty then left ++ right
  else
    left ++ lineBreak (level + 1) ++ ("," ++ lineBreak (level + 1)).intercalate lines
      ++ lineBreak level ++ right

mutual

/-- The text of a value at a given level, on lines of its own. -/
def indented (level : Nat) : Value → String
  | .null => "null"
  | .bool value => truth value
  | .number value => value.text
  | .text value => String.ofList (literal value)
  | .list items => bracketed "[" "]" level (indentedItems (level + 1) items)
  | .object members =>
      bracketed "\x7b" "\x7d" level (indentedMembers (level + 1) members)

/-- The text of each item of a list. -/
def indentedItems (level : Nat) : List Value → List String
  | [] => []
  | item :: items => item.indented level :: indentedItems level items

/-- The text of each member of an object: name, colon, blank, value. -/
def indentedMembers (level : Nat) : List (String × Value) → List String
  | [] => []
  | (name, value) :: members =>
      (String.ofList (literal name) ++ ": " ++ value.indented level)
        :: indentedMembers level members

end

/-- The text of a value over several lines, two blanks to a level. -/
def pretty (value : Value) : String :=
  value.indented 0

end Value

end WebCompat.Json
