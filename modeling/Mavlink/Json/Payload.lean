import Mavlink.Json.Record
import Mavlink.Payload.Value

/-!
# Field values as JSON

A value is written without its kind: numbers as numbers, texts as strings, bytes and arrays as
arrays. The kind is found again by trying, in this order, an unsigned integer, a signed one, a
floating-point number, a text and bytes. An array outside another array is always an array.
-/

namespace Mavlink

namespace Scalar

/-- The scalar as JSON. -/
def toJson : Scalar → Json
  | uint v => .number (.whole v.toNat)
  | int v => .number (.whole v.toInt)
  | float v => .number (.float v)
  | text v => .ofString v
  | bytes v => .ofList (fun b => .ofNat b.toNat) v

/-- The scalar that a whole number is. -/
def ofInt? (n : Int) : Option Scalar :=
  if 0 ≤ n ∧ n < UInt64.size then some (uint (UInt64.ofNat n.toNat))
  else if Int64.minValue.toInt ≤ n ∧ n < 0 then some (int (Int64.ofInt n))
  else none

/-- The scalar that a JSON value denotes. -/
def ofJson? : Json → Option Scalar
  | .number (.whole n) => ofInt? n
  | .number (.float v) => some (float v)
  | .text (some v) => some (text v)
  | .array items => (items.mapM Json.toUInt8?).map bytes
  | _ => none

end Scalar

namespace Value

/-- The value as JSON. -/
def toJson : Value → Json
  | scalar v => v.toJson
  | array items => .ofList Scalar.toJson items

/-- The value that a JSON value denotes. -/
def ofJson? : Json → Option Value
  | .array items => (items.mapM Scalar.ofJson?).map array
  | j => (Scalar.ofJson? j).map scalar

end Value

namespace Fields

/-- The fields as JSON. -/
def toJson (fields : Fields) : Json :=
  .record (fields.entries.map fun e => (e.1, e.2.toJson))

/-- The fields that an object denotes; of two members with one name the later one counts. -/
def ofJson? : Json → Option Fields
  | .object members => do
    let members ← JsonRecord.readable? members
    let entries ← members.mapM fun m => (Value.ofJson? m.2).map fun v => (m.1, v)
    return NameMap.ofList entries
  | _ => none

end Fields

end Mavlink
