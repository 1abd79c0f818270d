import Mavlink.Dialect.Layout
import Mavlink.Payload.Value
import Mavlink.Text.Utf8

/-!
# Values and fields on the wire

A single value of a wire type takes as many bytes as the type is wide, least significant first.
An integer may be written if it is what its bytes read as; a floating-point number that is too
large for the narrower format may not. A character is one byte, which is the first byte of a text
or the value of a small integer.

A field takes exactly the bytes of its slot. Texts and arrays may be shorter than the slot and are
then filled up with zero bytes; what does not fit is cut off.
-/

namespace Mavlink

namespace WireType

/-- Whether the type is a signed integer type. -/
def isSigned : WireType → Bool
  | int8 | int16 | int32 | int64 => true
  | _ => false

/-- The number that raw bits denote in an integer type. -/
def integerOfRaw (t : WireType) (raw : Nat) : Int :=
  if t.isSigned then (raw : Int).bmod (Bytes.count t.size) else raw

/-- The raw bits of a number in an integer type. -/
def rawOfInteger (t : WireType) (n : Int) : Nat :=
  (n % (Bytes.count t.size : Int)).toNat

/-- Reads one value. -/
def read (t : WireType) (b : Bytes) : Scalar :=
  let raw := Bytes.fromLittleEndian b
  match t with
  | uint8 | uint16 | uint32 | uint64 => .uint (UInt64.ofNat raw)
  | int8 | int16 | int32 | int64 => .int (Int64.ofInt (t.integerOfRaw raw))
  | float => .float (Binary64.widen ⟨UInt32.ofNat raw⟩)
  | double => .float ⟨UInt64.ofNat raw⟩
  | char => .text (Text.ofField b)

/-- The bytes of an integer, if it is what they read as. -/
def writeInteger (t : WireType) (v : Scalar) : Except EncodeFault Bytes :=
  match v.number? with
  | none => .error (.typeMismatch .integer v.kind)
  | some n =>
    let raw := t.rawOfInteger n
    if t.integerOfRaw raw = n then .ok (Bytes.littleEndian t.size raw)
    else .error (.outOfRange v t)

/-- The bytes of a number in the 32-bit format. -/
def writeFloat (v : Scalar) : Except EncodeFault Bytes :=
  match v.toBinary64? with
  | none => .error (.typeMismatch .number v.kind)
  | some x =>
    if x.exceedsNarrow then .error (.outOfRange v .float)
    else .ok (Bytes.littleEndian 4 x.narrow.bits.toNat)

/-- The bytes of a number in the 64-bit format. -/
def writeDouble (v : Scalar) : Except EncodeFault Bytes :=
  match v.toBinary64? with
  | none => .error (.typeMismatch .number v.kind)
  | some x => .ok (Bytes.littleEndian 8 x.bits.toNat)

/-- The byte of a character; an empty text gives a zero byte. -/
def writeChar (v : Scalar) : Except EncodeFault Bytes :=
  match v with
  | .text s => .ok [(Text.bytes s).headD 0]
  | .bytes b => .ok [b.headD 0]
  | .float _ => .error (.typeMismatch .character v.kind)
  | .uint _ | .int _ =>
    match v.toUInt64? with
    | some n => if n ≤ 0xff then .ok [n.toUInt8] else .error (.outOfRange v .char)
    | none => .error (.outOfRange v .char)

/-- Writes one value. -/
def write (t : WireType) (v : Scalar) : Except EncodeFault Bytes :=
  match t with
  | uint8 | uint16 | uint32 | uint64 | int8 | int16 | int32 | int64 => t.writeInteger v
  | float => writeFloat v
  | double => writeDouble v
  | char => writeChar v

/-- Writes values one after the other. -/
def writeAll (t : WireType) : List Scalar → Except EncodeFault Bytes
  | [] => .ok []
  | v :: rest => do
    let front ← t.write v
    let back ← t.writeAll rest
    return front ++ back

end WireType

/-! ### Fields -/

namespace Shape

/-- Reads a field. -/
def read (shape : Shape) (b : Bytes) : Value :=
  match shape with
  | scalar t => .scalar (t.read b)
  | array t _ => .array ((b.wholePieces t.size).map t.read)
  | text _ => .scalar (.text (Text.ofField b))

/-- The bytes of a text field. -/
def writeText (length : Nat) (v : Scalar) : Except EncodeFault Bytes :=
  match v with
  | .text s => .ok (Bytes.fit length (Text.bytes s))
  | .bytes b => .ok (Bytes.fit length b)
  | v => .error (.typeMismatch .stringOrBytes v.kind)

/-- How many elements an array has bytes for: as many as its length says, unless its size does not
fit into 64 bits. -/
def room (t : WireType) (length : Nat) : Nat :=
  (array t length).size / t.size

/-- The bytes of an array field. -/
def writeItems (t : WireType) (length : Nat) (items : List Scalar) : Except EncodeFault Bytes := do
  let b ← t.writeAll (items.take (room t length))
  return Bytes.fit (array t length).size b

/-- Writes a field. An array of single bytes may be given as a byte string. -/
def write (shape : Shape) (v : Value) : Except EncodeFault Bytes :=
  match shape, v with
  | scalar t, .scalar v => t.write v
  | text length, .scalar v => writeText length v
  | array t length, .array items => writeItems t length items
  | array t length, .scalar (.bytes b) =>
    if t.size = 1 then writeItems t length (b.map fun x => .uint x.toUInt64)
    else .error (.typeMismatch .array .bytes)
  | scalar _, v => .error (.typeMismatch .scalar v.kind)
  | text _, v => .error (.typeMismatch .stringOrBytes v.kind)
  | array _ _, v => .error (.typeMismatch .array v.kind)

end Shape

end Mavlink
