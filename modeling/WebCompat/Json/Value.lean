import WebCompat.Number.Basic
import WebCompat.Text.Quoted

/-!
Values of the JSON data format, as they stand in a document: the members of an object keep
their order, and a name may occur twice.
-/

namespace WebCompat.Json

/-- A value of a document. -/
inductive Value where
  | null
  | bool (value : Bool)
  | number (value : Number)
  | text (value : String)
  | list (items : List Value)
  | object (members : List (String × Value))

namespace Value

/-- The words true and false. -/
def truth (value : Bool) : String :=
  if value then "true" else "false"

/-- What a message calls a value that stands where another kind was expected: scalars are
shown, containers only named. -/
def described : Value → String
  | .null => "null"
  | .bool value => "boolean \x60" ++ truth value ++ "\x60"
  | .number (.real isNegative magnitude) =>
      "floating point \x60" ++ (Number.real isNegative magnitude).text ++ "\x60"
  | .number value => "integer \x60" ++ value.text ++ "\x60"
  | .text value => "string " ++ Text.quoted value
  | .list _ => "sequence"
  | .object _ => "map"

def text? : Value → Option String
  | .text value => some value
  | _ => none

end Value

end WebCompat.Json
