import Mavlink.Json.Basic
import Mavlink.Json.String
import Mavlink.Number.Decimal

/-!
# Writing JSON texts

Values are written without blanks between the tokens. A number that is not whole is written with
the fewest digits that read back, and always with a point or an exponent, so that it does not read
as a whole number.
-/

namespace Mavlink

/-- The number in a JSON text: written out in full from `0.00001` up to sixteen digits before the
point, and with an exponent otherwise. What is not finite has no number. -/
def Binary64.jsonText (x : Binary64) : List Char :=
  if x.isFinite then
    let d := x.shortest .even
    x.signText ++
      if -5 < d.pointPosition && d.pointPosition ≤ 16 then d.positional true else d.scientific
  else "null".toList

/-- The number as it is written. -/
def JsonNumber.write : JsonNumber → List Char
  | whole n => (toString n).toList
  | float x => x.jsonText
  | outOfRange => "null".toList

namespace Json

/-- What stands for a text that has no characters to write. -/
def unreadable : String := "\ufffd"

mutual

/-- The value as it is written. -/
def write : Json → List Char
  | null => "null".toList
  | bool true => "true".toList
  | bool false => "false".toList
  | number n => n.write
  | text s? => JsonString.write (s?.getD unreadable)
  | array items => '[' :: writeItems items ++ [']']
  | object members => '\x7b' :: writeMembers members ++ ['\x7d']

/-- The items of an array as they are written. -/
def writeItems : List Json → List Char
  | [] => []
  | [item] => item.write
  | item :: rest => item.write ++ ',' :: writeItems rest

/-- The members of an object as they are written. -/
def writeMembers : List (Option String × Json) → List Char
  | [] => []
  | [(key, value)] => JsonString.write (key.getD unreadable) ++ ':' :: value.write
  | (key, value) :: rest =>
    JsonString.write (key.getD unreadable) ++ ':' :: value.write ++ ',' :: writeMembers rest

end

/-- The JSON text of a value. -/
def render (j : Json) : String :=
  String.ofList j.write

end Json

end Mavlink
