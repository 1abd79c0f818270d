import Mavlink.Bytes
import Mavlink.Dialect.Declaration
import Mavlink.Dialect.WireType
import Mavlink.NameMap
import Mavlink.Number.Decimal
import Mavlink.Text.Quoted

/-!
# Field values

The value of a field is a scalar or an array of scalars. Values are not tied to wire types: a
field of any integer type takes an unsigned or a signed integer, as long as the number is in range.

Where a value could not be written into its field, or a payload could not be written or read, an
error says why.
-/

namespace Mavlink

/-- A single value. -/
inductive Scalar
  | uint (value : UInt64)
  | int (value : Int64)
  | float (value : Binary64)
  | text (value : String)
  | bytes (value : Bytes)
  deriving DecidableEq, Repr

/-- The value of a field. -/
inductive Value
  | scalar (value : Scalar)
  | array (items : List Scalar)
  deriving DecidableEq, Repr

/-- The kinds of values. -/
inductive ValueKind
  | unsignedInteger
  | integer
  | float
  | text
  | bytes
  | array
  deriving DecidableEq, Repr

/-- The values of fields by the names of the fields. -/
abbrev Fields := NameMap Value

/-- What a kind of values is called. -/
def ValueKind.name : ValueKind → String
  | unsignedInteger => "unsigned integer"
  | integer => "integer"
  | float => "float"
  | text => "string"
  | bytes => "bytes"
  | array => "array"

namespace Scalar

/-- The kind of the value. -/
def kind : Scalar → ValueKind
  | uint _ => .unsignedInteger
  | int _ => .integer
  | float _ => .float
  | text _ => .text
  | bytes _ => .bytes

/-- The whole number that an integer denotes. -/
def number? : Scalar → Option Int
  | uint v => some v.toNat
  | int v => some v.toInt
  | _ => none

/-- The value as an unsigned integer, if it is an integer and not negative. -/
def toUInt64? : Scalar → Option UInt64
  | uint v => some v
  | int v => if 0 ≤ v then some v.toUInt64 else none
  | _ => none

/-- The value as a signed integer, if it is an integer and not too large. -/
def toInt64? : Scalar → Option Int64
  | uint v => if v < 0x8000000000000000 then some v.toInt64 else none
  | int v => some v
  | _ => none

/-- The value as a floating-point number, if it is a number; integers are rounded to the nearest
one. -/
def toBinary64? : Scalar → Option Binary64
  | uint v => some (Binary64.ofInt v.toNat)
  | int v => some (Binary64.ofInt v.toInt)
  | float v => some v
  | _ => none

/-- The value as a text, if it is one. -/
def toText? : Scalar → Option String
  | text v => some v
  | _ => none

/-- The value as it is shown in messages. -/
def display : Scalar → String
  | uint v => toString v.toNat
  | int v => toString v.toInt
  | float v => v.display
  | text v => Text.quoted v
  | bytes v => "[" ++ ", ".intercalate (v.map Text.hexByte) ++ "]"

end Scalar

namespace Value

/-- The kind of the value. -/
def kind : Value → ValueKind
  | scalar v => v.kind
  | array _ => .array

/-- The single value, if the value is no array. -/
def toScalar? : Value → Option Scalar
  | scalar v => some v
  | array _ => none

/-- The items, if the value is an array. -/
def toArray? : Value → Option (List Scalar)
  | scalar _ => none
  | array items => some items

/-- The value as it is shown in messages. -/
def display : Value → String
  | scalar v => v.display
  | array items => "[" ++ ", ".intercalate (items.map Scalar.display) ++ "]"

end Value

/-! ### Errors -/

/-- What a field, or an element of one, takes. -/
inductive Expectation
  | integer
  | number
  | character
  | scalar
  | stringOrBytes
  | array
  | flag
  deriving DecidableEq, Repr

/-- How an expectation is phrased. -/
def Expectation.name : Expectation → String
  | integer => "integer"
  | number => "number"
  | character => "character"
  | scalar => "scalar"
  | stringOrBytes => "string or bytes"
  | array => "array"
  | flag => "flag name or value"

/-- Why a value could not be written into its field. -/
inductive EncodeFault
  | typeMismatch (expected : Expectation) (found : ValueKind)
  | outOfRange (value : Scalar) (wireType : WireType)
  | unknownEnum (name : String)
  | enumeration (error : EnumError)
  deriving DecidableEq, Repr

/-- The text of the fault. -/
def EncodeFault.message : EncodeFault → String
  | typeMismatch expected found => s!"expected {expected.name}, got {found.name}"
  | outOfRange value wireType => s!"value {value.display} is out of range for {wireType.name}"
  | unknownEnum name => s!"enum '{name}' is not registered"
  | enumeration error => error.message

/-- Why a payload could not be written or read. -/
inductive PayloadError
  | unknownMessage (id : UInt32)
  | encode (field : String) (fault : EncodeFault)
  | tooShort (message : String) (required actual : Nat)
  deriving DecidableEq, Repr

/-- The text of the error. -/
def PayloadError.message : PayloadError → String
  | unknownMessage id => s!"unknown message id #{id}"
  | encode field fault => s!"can't encode field '{field}': {fault.message}"
  | tooShort message required actual =>
    s!"payload too short for '{message}': {actual} bytes, at least {required} required"

end Mavlink
