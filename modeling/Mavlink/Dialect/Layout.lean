import Mavlink.Crc
import Mavlink.Dialect.Declaration
import Mavlink.Dialect.TypeName
import Mavlink.Text.Utf8
import Mavlink.Version

/-!
# Message layouts

The payload of a message is the concatenation of its fields. Fields that have been part of the
message from the start, the *base fields*, come first; *extension fields* follow and may be missing
at the end of a payload. Within both groups wider elements come before narrower ones, and fields
of one width stay in the order of their declaration.

The names and types of the base fields enter a checksum, the *extra byte*, by which two peers
notice that they disagree about the layout of a message.

Sizes and positions are numbers of 64 bits, as array lengths are. No sum or product of them is
checked: what does not fit into 64 bits is lost. So a message whose fields take 2^64 bytes and a
few more passes for a message of these few bytes.
-/

namespace Mavlink

/-- Sizes and positions are numbers of 64 bits. -/
def sizeBound : Nat :=
  UInt64.size

/-- What is left of a size or a position in 64 bits. -/
def wrap (n : Nat) : Nat :=
  n % sizeBound

/-- Why a dialect could not be compiled. -/
inductive CompileError
  | unknownWireType (message field typeName : String)
  | invalidArrayLength (message field typeName : String)
  | emptyPayload (message : String) (id : UInt32)
  | payloadTooLarge (message : String) (id : UInt32) (size : Nat)
  | messageIdOutOfRange (message : String) (id : UInt32)
  | duplicateMessageId (id : UInt32) (first second : String)
  deriving DecidableEq, Repr

/-- The text of the error. -/
def CompileError.message : CompileError → String
  | unknownWireType m f t => s!"message '{m}': field '{f}' has unsupported type '{t}'"
  | invalidArrayLength m f t => s!"message '{m}': field '{f}' has invalid array declaration '{t}'"
  | emptyPayload m id => s!"message '{m}' (#{id}) has zero payload size"
  | payloadTooLarge m id size =>
    s!"message '{m}' (#{id}) payload of {size} bytes exceeds 255 bytes"
  | messageIdOutOfRange m id => s!"message '{m}' has id #{id} which does not fit into 24 bits"
  | duplicateMessageId id first second =>
    s!"message id #{id} is declared by both '{first}' and '{second}'"

/-- A field with its type resolved. The index is its place among the declared fields, and the
array length is zero if it is no array. -/
structure Field where
  index : Nat
  wireType : WireType
  name : String
  enumName? : Option String
  arrayLength : Nat
  isExtension : Bool
  deriving DecidableEq, Repr

namespace Field

/-- Whether the field is an array. -/
def isArray (f : Field) : Bool :=
  f.arrayLength ≠ 0

/-- The number of bytes that the field takes. -/
def size (f : Field) : Nat :=
  wrap (f.wireType.size * max f.arrayLength 1)

end Field

/-- How the bytes of a field are read. -/
inductive Shape
  | scalar (type : WireType)
  | array (element : WireType) (length : Nat)
  | text (length : Nat)
  deriving DecidableEq, Repr

namespace Shape

/-- The shape of a field: an array of characters is a text. -/
def ofField (f : Field) : Shape :=
  if f.arrayLength = 0 then .scalar f.wireType
  else if f.wireType = .char then .text f.arrayLength
  else .array f.wireType f.arrayLength

/-- The number of bytes that the shape takes. -/
def size : Shape → Nat
  | scalar t => t.size
  | array t n => wrap (t.size * n)
  | text n => n

/-- The type of the shape's elements. -/
def wireType : Shape → WireType
  | scalar t => t
  | array t _ => t
  | text _ => .char

end Shape

/-- A field at its place in the payload. -/
structure Slot where
  field : Field
  shape : Shape
  offset : Nat
  size : Nat
  deriving DecidableEq, Repr

namespace Slot

/-- The name of the field. -/
def name (s : Slot) : String :=
  s.field.name

/-- The position after the field's last byte. -/
def stop (s : Slot) : Nat :=
  wrap (s.offset + s.size)

/-- One line about the slot. -/
def display (s : Slot) : String :=
  let f := s.field
  let length := if f.isArray then s!"[{f.arrayLength}]" else ""
  let enum := match f.enumName? with
    | some name => s!" enum={name}"
    | none => ""
  let extension := if f.isExtension then " (extension)" else ""
  s!"{f.wireType.name} {f.name}{length} @{s.offset}+{s.size}{enum}{extension}"

end Slot

/-- The layout of a message: its slots in the order of the payload, its extra byte, and the
lengths of its payload with all fields and with the base fields only. -/
structure Layout where
  id : UInt32
  name : String
  slots : List Slot
  crcExtra : UInt8
  maxSize : Nat
  minSize : Nat
  deriving DecidableEq, Repr

namespace Layout

/-- The slot of the first field with the given name. -/
def slot? (l : Layout) (name : String) : Option Slot :=
  l.slots.find? fun s => s.name = name

/-- The slots of the base fields. -/
def baseSlots (l : Layout) : List Slot :=
  l.slots.filter fun s => !s.field.isExtension

/-- The slots of the extension fields. -/
def extensionSlots (l : Layout) : List Slot :=
  l.slots.filter fun s => s.field.isExtension

/-- A line about the message and one about each of its slots. -/
def display (l : Layout) : String :=
  s!"{l.name} #{l.id} crc_extra={l.crcExtra} size={l.minSize}..={l.maxSize}\n" ++
    String.join (l.slots.map fun s => s!"  {s.display}\n")

/-! ### Compilation -/

/-- A declared field with its type resolved. -/
def resolveField (message : String) (index : Nat) (d : FieldDeclaration) :
    Except CompileError Field :=
  match TypeName.resolve d.typeName d.arrayLength with
  | .ok (wireType, arrayLength) =>
    .ok { index, wireType, name := d.name, enumName? := d.enumName?, arrayLength,
          isExtension := d.isExtension }
  | .error .unknownType => .error (.unknownWireType message d.name d.typeName)
  | .error .invalidLength => .error (.invalidArrayLength message d.name d.typeName)

/-- The declared fields from a given index on, with their types resolved. -/
def resolveFields (message : String) :
    Nat → List FieldDeclaration → Except CompileError (List Field)
  | _, [] => .ok []
  | index, d :: rest => do
    let field ← resolveField message index d
    let fields ← resolveFields message (index + 1) rest
    return field :: fields

/-- The widths of elements, widest first. -/
def widths : List Nat := [8, 4, 2, 1]

/-- Fields ordered by the width of their elements, widest first; fields of one width keep their
order. -/
def wireOrder (fields : List Field) : List Field :=
  widths.flatMap fun width => fields.filter fun f => f.wireType.size = width

/-- The fields placed one after the other from a position on. -/
def place : Nat → List Field → List Slot
  | _, [] => []
  | offset, f :: rest =>
    let shape := Shape.ofField f
    { field := f, shape, offset, size := shape.size } :: place (wrap (offset + shape.size)) rest

/-- The position behind the fields placed one after the other from a position on. -/
def endFrom (offset : Nat) (fields : List Field) : Nat :=
  fields.foldl (fun offset f => wrap (offset + (Shape.ofField f).size)) offset

/-- The number of bytes that the fields take together. -/
def totalSize (fields : List Field) : Nat :=
  endFrom 0 fields

/-- The bytes by which a field enters the extra byte: its type and its name, each closed by a
blank, and the length of an array. -/
def extraBytes (f : Field) : Bytes :=
  Text.bytes f.wireType.name ++ [0x20] ++ Text.bytes f.name ++ [0x20] ++
    if f.isArray then [UInt8.ofNat f.arrayLength] else []

/-- The extra byte of a message: the checksum of its name and its base fields, with its two bytes
folded into one. -/
def extraByte (name : String) (base : List Field) : UInt8 :=
  let crc := Crc.update Crc.start (Text.bytes name ++ [0x20] ++ base.flatMap extraBytes)
  crc.toUInt8 ^^^ (crc >>> 8).toUInt8

/-- The layout of a declared message. -/
def compile (d : MessageDeclaration) : Except CompileError Layout := do
  let fields ← resolveFields d.name 0 d.fields
  let base := wireOrder (fields.filter fun f => !f.isExtension)
  let extensions := wireOrder (fields.filter fun f => f.isExtension)
  let size := totalSize (base ++ extensions)
  if size = 0 then
    throw (.emptyPayload d.name d.id)
  else if maxPayloadSize < size then
    throw (.payloadTooLarge d.name d.id size)
  else
    return { id := d.id, name := d.name, slots := place 0 (base ++ extensions),
             crcExtra := extraByte d.name base, maxSize := size, minSize := totalSize base }

end Layout

end Mavlink
