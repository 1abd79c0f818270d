/-!
# Wire types

The eleven types that a message field, or an element of an array field, can have.
-/

namespace Mavlink

/-- The type of a number or character in a payload. -/
inductive WireType
  | int8
  | uint8
  | int16
  | uint16
  | int32
  | uint32
  | int64
  | uint64
  | float
  | double
  | char
  deriving DecidableEq, Repr

namespace WireType

/-- All wire types. -/
def all : List WireType :=
  [int8, uint8, int16, uint16, int32, uint32, int64, uint64, float, double, char]

/-- The number of bytes that a value takes. -/
def size : WireType → Nat
  | int8 | uint8 | char => 1
  | int16 | uint16 => 2
  | int32 | uint32 | float => 4
  | int64 | uint64 | double => 8

/-- The name by which the type is declared. -/
def name : WireType → String
  | int8 => "int8_t"
  | uint8 => "uint8_t"
  | int16 => "int16_t"
  | uint16 => "uint16_t"
  | int32 => "int32_t"
  | uint32 => "uint32_t"
  | int64 => "int64_t"
  | uint64 => "uint64_t"
  | float => "float"
  | double => "double"
  | char => "char"

/-- Whether the type is one of the floating-point types. -/
def isFloat : WireType → Bool
  | float | double => true
  | _ => false

/-- Whether the type is one of the integer types; `char` is not. -/
def isInteger : WireType → Bool
  | float | double | char => false
  | _ => true

/-- Every type is listed. -/
theorem mem_all (t : WireType) : t ∈ all := by
  cases t <;> decide

/-- Every type takes at least one byte. -/
theorem size_pos (t : WireType) : 0 < t.size := by
  cases t <;> decide

/-- Different types have different names. -/
theorem name_injective {s t : WireType} (h : s.name = t.name) : s = t := by
  cases s <;> cases t <;> first | rfl | exact absurd h (by decide)

end WireType

end Mavlink
