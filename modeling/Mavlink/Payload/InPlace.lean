import Mavlink.Access
import Mavlink.Payload.Codec

/-!
# Payloads in place

Payloads read and written in their buffer, position by position. The bytes of an element are widened
to eight and the number in them is cast to the type; a value is turned into the raw bits of a number
of 64 bits, whose low bytes are copied over the element. An array is cut into pieces of its
element's size, a text is copied over the front of zero bytes, and a slot names its part of the
payload by its offset and its end.

Where every slot ends behind its start, this is what the codec reads and writes. A slot that ends
before it starts, because its end does not fit into 64 bits, is an access that fails here, while the
codec goes by the size of the slot.
-/

namespace Mavlink

namespace Checked

variable {ε : Type}

/-! ### Elements -/

/-- The text in bytes, up to the first zero byte. -/
def readText (b : Bytes) : Checked ε String := do
  return Text.ofBytes (← range b 0 (b.findIdx (· = 0)))

/-- Raw bits cast to a signed type, and from there to 64 bits. -/
def castSigned (t : WireType) (raw : UInt64) : Int64 :=
  match t with
  | .int8 => raw.toUInt8.toInt8.toInt64
  | .int16 => raw.toUInt16.toInt16.toInt64
  | .int32 => raw.toUInt32.toInt32.toInt64
  | _ => raw.toInt64

/-- One value, widened to eight bytes and cast to what its type reads as. -/
def readScalar (t : WireType) (b : Bytes) : Checked ε Scalar := do
  let raw := UInt64.ofNat (Bytes.fromLittleEndian (← copyInto (Bytes.zeros 8) 0 b.length b))
  match t with
  | .uint8 | .uint16 | .uint32 | .uint64 => return .uint raw
  | .int8 | .int16 | .int32 | .int64 => return .int (castSigned t raw)
  | .float => return .float (Binary64.widen ⟨raw.toUInt32⟩)
  | .double => return .float ⟨raw⟩
  | .char => return .text (← readText b)

/-- The number that was found, if it is in range. -/
def orOutOfRange {α : Type} (t : WireType) (v : Scalar) (found : Option α) :
    Checked EncodeFault α :=
  match found with
  | some n => .ok n
  | none => .error (.own (.outOfRange v t))

/-- The raw bits of an integer in an unsigned type. -/
def rawUnsigned (t : WireType) (v : Scalar) : Checked EncodeFault UInt64 := do
  let n ← orOutOfRange t v v.toUInt64?
  let bits := t.size * 8
  if bits < 64 then
    if (← shiftRight n bits) ≠ 0 then .error (.own (.outOfRange v t)) else return n
  else return n

/-- The raw bits of an integer in a signed type. -/
def rawSigned (t : WireType) (v : Scalar) : Checked EncodeFault UInt64 := do
  let n ← orOutOfRange t v v.toInt64?
  let bits := t.size * 8
  let least := -(← power (bits - 1))
  let greatest := (← power (bits - 1)) - 1
  if n.toInt < least ∨ greatest < n.toInt then .error (.own (.outOfRange v t))
  else return n.toUInt64

/-- The raw bits of a value. -/
def raw (t : WireType) (v : Scalar) : Checked EncodeFault UInt64 :=
  match t with
  | .uint8 | .uint16 | .uint32 | .uint64 =>
    match v with
    | .uint _ | .int _ => rawUnsigned t v
    | v => .error (.own (.typeMismatch .integer v.kind))
  | .int8 | .int16 | .int32 | .int64 =>
    match v with
    | .uint _ | .int _ => rawSigned t v
    | v => .error (.own (.typeMismatch .integer v.kind))
  | .float =>
    match v.toBinary64? with
    | none => .error (.own (.typeMismatch .number v.kind))
    | some x =>
      if x.exceedsNarrow then .error (.own (.outOfRange v .float))
      else return x.narrow.bits.toUInt64
  | .double =>
    match v.toBinary64? with
    | none => .error (.own (.typeMismatch .number v.kind))
    | some x => return x.bits
  | .char =>
    match v with
    | .text s => return ((Text.bytes s).headD 0).toUInt64
    | .bytes b => return (b.headD 0).toUInt64
    | .uint _ | .int _ =>
      match v.toUInt64? with
      | some n => if n ≤ 0xff then return n else .error (.own (.outOfRange v .char))
      | none => .error (.own (.outOfRange v .char))
    | .float _ => .error (.own (.typeMismatch .character v.kind))

/-- One value, written over the bytes of its element. -/
def writeScalar (t : WireType) (v : Scalar) (out : Bytes) : Checked EncodeFault Bytes := do
  let n ← raw t v
  copy out (← range (Bytes.littleEndian 8 n.toNat) 0 t.size)

/-! ### Fields -/

/-- A field, read from its bytes. -/
def readField (shape : Shape) (b : Bytes) : Checked ε Value :=
  match shape with
  | .scalar t => do return .scalar (← readScalar t b)
  | .array t _ => do return .array (← (← pieces t.size b).mapM (readScalar t))
  | .text _ => do return .scalar (.text (← readText b))

/-- Values written over pieces, one after the other, until there are no more of either. -/
def writePieces (t : WireType) : List Scalar → List Bytes → Checked EncodeFault (List Bytes)
  | v :: items, piece :: rest => do
    let written ← writeScalar t v piece
    return written :: (← writePieces t items rest)
  | _, rest => return rest

/-- The items of an array, written over its bytes. -/
def writeItems (t : WireType) (items : List Scalar) (out : Bytes) : Checked EncodeFault Bytes := do
  let written ← writePieces t items (← pieces t.size out)
  return written.flatten ++ out.drop (t.size * (out.length / t.size))

/-- A text, written over its bytes. -/
def writeText (length : Nat) (v : Scalar) (out : Bytes) : Checked EncodeFault Bytes := do
  let b ← match v with
    | .text s => pure (Text.bytes s)
    | .bytes b => pure b
    | v => .error (.own (.typeMismatch .stringOrBytes v.kind))
  let n := min b.length length
  copyInto out 0 n (← range b 0 n)

/-- A field, written over its bytes, which are zero before. -/
def writeField (shape : Shape) (v : Value) (out : Bytes) : Checked EncodeFault Bytes :=
  let blank := Bytes.zeros out.length
  match shape, v with
  | .scalar t, .scalar v => writeScalar t v blank
  | .text length, .scalar v => writeText length v blank
  | .array t length, .array items => writeItems t (items.take length) blank
  | .array t length, .scalar (.bytes b) =>
    if t.size = 1 then do
      let items := (b.take length).map fun x => Scalar.uint x.toUInt64
      return (← writePieces t items (blank.map fun x => [x])).flatten
    else .error (.own (.typeMismatch .array .bytes))
  | .scalar _, v => .error (.own (.typeMismatch .scalar v.kind))
  | .text _, v => .error (.own (.typeMismatch .stringOrBytes v.kind))
  | .array _ _, v => .error (.own (.typeMismatch .array v.kind))

/-! ### Payloads -/

/-- A fault of a field's value as an error of the payload. -/
def inField {α : Type} (name : String) (x : Checked EncodeFault α) : Checked PayloadError α :=
  x.mapError fun
    | .access fault => .access fault
    | .own fault => .own (.encode name fault)

/-- A field, with its names resolved, written over its part of the payload. -/
def writeSlot (r : Registry) (s : Slot) (v : Value) (payload : Bytes) :
    Checked PayloadError Bytes := do
  let resolved ← inField s.name (ofExcept (EnumNames.resolve r s v))
  let part ← range payload s.offset s.stop
  inField s.name (writeField s.shape resolved part)

/-- The given fields, one after the other. -/
def writeSlots (r : Registry) (fields : Fields) : List Slot → Bytes → Checked PayloadError Bytes
  | [], payload => return payload
  | s :: rest, payload =>
    match fields.get? s.name with
    | none => writeSlots r fields rest payload
    | some v => do
      let written ← writeSlot r s v payload
      writeSlots r fields rest (Bytes.overwrite s.offset written payload)

/-- The payload of a message with the given fields. -/
def encode (r : Registry) (id : UInt32) (fields : Fields) : Checked PayloadError Bytes :=
  match r.message? id with
  | none => .error (.own (.unknownMessage id))
  | some l =>
    let size := l.payloadSize fields
    writeSlots r fields (l.slotsWithin size) (Bytes.zeros size)

/-- The field of a slot, with its name. -/
def readSlot (payload : Bytes) (s : Slot) : Checked ε (String × Value) := do
  return (s.name, ← readField s.shape (← range payload s.offset s.stop))

/-- The fields of a message's payload. -/
def decode (r : Registry) (id : UInt32) (payload : Bytes) : Checked PayloadError Fields :=
  match r.message? id with
  | none => .error (.own (.unknownMessage id))
  | some l =>
    if payload.length < l.minSize then
      .error (.own (.tooShort l.name l.minSize payload.length))
    else do return NameMap.ofList (← (l.slotsWithin payload.length).mapM (readSlot payload))

end Checked

end Mavlink
