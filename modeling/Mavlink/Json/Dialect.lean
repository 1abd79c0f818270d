import Mavlink.Dialect.Layout
import Mavlink.Json.Record

/-!
# Dialects as JSON

Declarations of dialects and layouts of messages as JSON records. In a declaration the fields that
are mostly the same can be left out.
-/

namespace Mavlink

namespace EnumEntry

/-- The entry as JSON. -/
def toJson (e : EnumEntry) : Json :=
  .record [("name", .ofString e.name), ("value", .ofNat e.value.toNat)]

/-- The entry that a JSON value denotes. -/
def ofJson? (j : Json) : Option EnumEntry := do
  let r ← JsonRecord.ofJson? ["name", "value"] j
  return { name := ← r.get? "name" Json.toText?, value := ← r.get? "value" Json.toUInt64? }

end EnumEntry

namespace Enumeration

/-- The enumeration as JSON. -/
def toJson (e : Enumeration) : Json :=
  .record
    [("name", .ofString e.name), ("bitmask", .bool e.isBitmask),
      ("entries", .ofList EnumEntry.toJson e.entries)]

/-- The enumeration that a JSON value denotes. -/
def ofJson? (j : Json) : Option Enumeration := do
  let r ← JsonRecord.ofJson? ["name", "bitmask", "entries"] j
  return { name := ← r.get? "name" Json.toText?
           isBitmask := ← r.getD? "bitmask" false Json.toBool?
           entries := ← r.get? "entries" (Json.toList? EnumEntry.ofJson?) }

end Enumeration

namespace FieldDeclaration

/-- The declaration as JSON. -/
def toJson (d : FieldDeclaration) : Json :=
  .record
    [("type", .ofString d.typeName), ("name", .ofString d.name),
      ("array_length", .ofNat d.arrayLength), ("extension", .bool d.isExtension),
      ("enum_name", .ofOption Json.ofString d.enumName?)]

/-- The declaration that a JSON value denotes. -/
def ofJson? (j : Json) : Option FieldDeclaration := do
  let r ← JsonRecord.ofJson? ["type", "name", "array_length", "extension", "enum_name"] j
  return { typeName := ← r.get? "type" Json.toText?
           name := ← r.get? "name" Json.toText?
           arrayLength := ← r.getD? "array_length" 0 Json.toCount?
           isExtension := ← r.getD? "extension" false Json.toBool?
           enumName? := ← r.getD? "enum_name" none (Json.toOption? Json.toText?) }

end FieldDeclaration

namespace MessageDeclaration

/-- The declaration as JSON. -/
def toJson (d : MessageDeclaration) : Json :=
  .record
    [("id", .ofNat d.id.toNat), ("name", .ofString d.name),
      ("fields", .ofList FieldDeclaration.toJson d.fields)]

/-- The declaration that a JSON value denotes. -/
def ofJson? (j : Json) : Option MessageDeclaration := do
  let r ← JsonRecord.ofJson? ["id", "name", "fields"] j
  return { id := ← r.get? "id" Json.toUInt32?
           name := ← r.get? "name" Json.toText?
           fields := ← r.get? "fields" (Json.toList? FieldDeclaration.ofJson?) }

end MessageDeclaration

namespace Dialect

/-- The dialect as JSON. -/
def toJson (d : Dialect) : Json :=
  .record
    [("name", .ofString d.name), ("messages", .ofList MessageDeclaration.toJson d.messages),
      ("enums", .ofList Enumeration.toJson d.enums)]

/-- The dialect that a JSON value denotes. -/
def ofJson? (j : Json) : Option Dialect := do
  let r ← JsonRecord.ofJson? ["name", "messages", "enums"] j
  return { name := ← r.get? "name" Json.toText?
           messages := ← r.get? "messages" (Json.toList? MessageDeclaration.ofJson?)
           enums := ← r.getD? "enums" [] (Json.toList? Enumeration.ofJson?) }

end Dialect

/-! ### Layouts -/

namespace WireType

/-- The name of the type in JSON. -/
def jsonName : WireType → String
  | int8 => "Int8"
  | uint8 => "UInt8"
  | int16 => "Int16"
  | uint16 => "UInt16"
  | int32 => "Int32"
  | uint32 => "UInt32"
  | int64 => "Int64"
  | uint64 => "UInt64"
  | float => "Float"
  | double => "Double"
  | char => "Char"

/-- The type as JSON. -/
def toJson (t : WireType) : Json :=
  .ofString t.jsonName

/-- The type that a JSON value denotes. -/
def ofJson? : Json → Option WireType :=
  Json.toCase? all jsonName

end WireType

namespace Shape

/-- The shape as JSON. -/
def toJson : Shape → Json
  | scalar t => .record [("Scalar", t.toJson)]
  | array t n => .record [("Array", .record [("element", t.toJson), ("length", .ofNat n)])]
  | text n => .record [("Text", .record [("length", .ofNat n)])]

/-- The array shape that a JSON value denotes. -/
def arrayOfJson? (j : Json) : Option Shape := do
  let r ← JsonRecord.ofJson? ["element", "length"] j
  return array (← r.get? "element" WireType.ofJson?) (← r.get? "length" Json.toCount?)

/-- The text shape that a JSON value denotes. -/
def textOfJson? (j : Json) : Option Shape := do
  let r ← JsonRecord.ofJson? ["length"] j
  return text (← r.get? "length" Json.toCount?)

/-- The shape that a JSON value denotes. -/
def ofJson? (j : Json) : Option Shape :=
  match j.toVariant? with
  | some ("Scalar", some content) => (WireType.ofJson? content).map scalar
  | some ("Array", some content) => arrayOfJson? content
  | some ("Text", some content) => textOfJson? content
  | _ => none

end Shape

namespace Field

/-- The field as JSON. -/
def toJson (f : Field) : Json :=
  .record
    [("index", .ofNat f.index), ("wire_type", f.wireType.toJson), ("name", .ofString f.name),
      ("enum_name", .ofOption Json.ofString f.enumName?), ("array_length", .ofNat f.arrayLength),
      ("extension", .bool f.isExtension)]

/-- The field that a JSON value denotes. -/
def ofJson? (j : Json) : Option Field := do
  let r ← JsonRecord.ofJson?
    ["index", "wire_type", "name", "enum_name", "array_length", "extension"] j
  return { index := ← r.get? "index" Json.toCount?
           wireType := ← r.get? "wire_type" WireType.ofJson?
           name := ← r.get? "name" Json.toText?
           enumName? := ← r.getOption? "enum_name" Json.toText?
           arrayLength := ← r.get? "array_length" Json.toCount?
           isExtension := ← r.get? "extension" Json.toBool? }

end Field

namespace Slot

/-- The slot as JSON. -/
def toJson (s : Slot) : Json :=
  .record
    [("definition", s.field.toJson), ("codec", s.shape.toJson), ("offset", .ofNat s.offset),
      ("size", .ofNat s.size)]

/-- The slot that a JSON value denotes. -/
def ofJson? (j : Json) : Option Slot := do
  let r ← JsonRecord.ofJson? ["definition", "codec", "offset", "size"] j
  return { field := ← r.get? "definition" Field.ofJson?
           shape := ← r.get? "codec" Shape.ofJson?
           offset := ← r.get? "offset" Json.toCount?
           size := ← r.get? "size" Json.toCount? }

end Slot

namespace Layout

/-- The layout as JSON. -/
def toJson (l : Layout) : Json :=
  .record
    [("id", .ofNat l.id.toNat), ("name", .ofString l.name), ("fields", .ofList Slot.toJson l.slots),
      ("crc_extra", .ofNat l.crcExtra.toNat), ("max_payload_size", .ofNat l.maxSize),
      ("min_payload_size", .ofNat l.minSize)]

/-- The layout that a JSON value denotes. It need not be the layout of any declaration. -/
def ofJson? (j : Json) : Option Layout := do
  let r ← JsonRecord.ofJson?
    ["id", "name", "fields", "crc_extra", "max_payload_size", "min_payload_size"] j
  return { id := ← r.get? "id" Json.toUInt32?
           name := ← r.get? "name" Json.toText?
           slots := ← r.get? "fields" (Json.toList? Slot.ofJson?)
           crcExtra := ← r.get? "crc_extra" Json.toUInt8?
           maxSize := ← r.get? "max_payload_size" Json.toCount?
           minSize := ← r.get? "min_payload_size" Json.toCount? }

end Layout

end Mavlink
