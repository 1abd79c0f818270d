import Mavlink.Number.Binary

/-!
# JSON values

Configurations, declarations and reports can be written as JSON texts. A value keeps more than its
meaning where a reader may want to refuse it: a text whose escapes denote no characters and a
number that is too large for every format are values, so that they do no harm in a member that
nobody reads.
-/

namespace Mavlink

/-- A number in a JSON text. Whole numbers from `-2 ^ 63` up to `2 ^ 64` are kept as they are. -/
inductive JsonNumber
  | whole (value : Int)
  | float (value : Binary64)
  | outOfRange
  deriving DecidableEq, Repr

/-- A JSON value. The text of a string is missing if the escapes in it denote no characters. The
members of an object stand in the order in which they were written. -/
inductive Json
  | null
  | bool (value : Bool)
  | number (value : JsonNumber)
  | text (value? : Option String)
  | array (items : List Json)
  | object (members : List (Option String × Json))
  deriving Repr

namespace Json

/-- A natural number. -/
def ofNat (n : Nat) : Json :=
  .number (.whole n)

/-- A text. -/
def ofString (s : String) : Json :=
  .text (some s)

/-- A list of values. -/
def ofList {α : Type} (f : α → Json) (l : List α) : Json :=
  .array (l.map f)

/-- A value that may be missing. -/
def ofOption {α : Type} (f : α → Json) : Option α → Json
  | none => .null
  | some x => f x

/-- An object with the given members. -/
def record (members : List (String × Json)) : Json :=
  .object (members.map fun m => (some m.1, m.2))

end Json

end Mavlink
