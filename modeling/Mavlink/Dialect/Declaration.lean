/-!
# Declarations of a dialect

A dialect is declared as a list of messages, each with its fields, and of the enumerations that
fields may refer to. Declarations are plain data; `Registry.compile` checks them and computes the
layout of every message.

The values of an enumeration can be given by the names of its entries. In a bitmask, names and raw
values combine; of a raw value only those bits count that belong to a declared entry which is
wholly contained in it.
-/

namespace Mavlink

/-- A named value of an enumeration. -/
structure EnumEntry where
  name : String
  value : UInt64
  deriving DecidableEq, Repr

/-- An enumeration. The values of a bitmask can be combined. -/
structure Enumeration where
  name : String
  isBitmask : Bool
  entries : List EnumEntry
  deriving DecidableEq, Repr

/-- A field as it is declared: its type, which may have an array length in brackets, and an array
length given apart from it, zero if there is none. -/
structure FieldDeclaration where
  typeName : String
  name : String
  arrayLength : Nat
  isExtension : Bool
  enumName? : Option String
  deriving DecidableEq, Repr

/-- A message as it is declared. -/
structure MessageDeclaration where
  id : UInt32
  name : String
  fields : List FieldDeclaration
  deriving DecidableEq, Repr

/-- A dialect as it is declared. -/
structure Dialect where
  name : String
  messages : List MessageDeclaration
  enums : List Enumeration
  deriving DecidableEq, Repr

/-! ### Enumerations -/

/-- Why a value could not be taken from an enumeration. -/
inductive EnumError
  | notBitmask (enum : String)
  | unknownEntry (enum entry : String)
  deriving DecidableEq, Repr

/-- The text of the error. -/
def EnumError.message : EnumError → String
  | notBitmask enum => s!"enum '{enum}' is not a bitmask"
  | unknownEntry enum entry => s!"'{entry}' is not an entry of enum '{enum}'"

/-- A contribution to a bitmask: the name of an entry or a raw value. -/
inductive Flag
  | name (name : String)
  | value (value : UInt64)
  deriving DecidableEq, Repr

namespace Enumeration

/-- The value of the first entry with the given name. -/
def valueOf (e : Enumeration) (name : String) : Except EnumError UInt64 :=
  match e.entries.find? fun entry => entry.name = name with
  | some entry => .ok entry.value
  | none => .error (.unknownEntry e.name name)

/-- The integer that stands for an integer: any integer may stand where an entry is expected. -/
def valueOfInt (_ : Enumeration) (value : Int64) : Int64 :=
  value

/-- The first entry with the given value. -/
def entryOf? (e : Enumeration) (value : UInt64) : Option EnumEntry :=
  e.entries.find? fun entry => entry.value = value

/-- The entries, other than zero, that a mask wholly contains. -/
def flagsIn (e : Enumeration) (mask : UInt64) : List EnumEntry :=
  e.entries.filter fun entry => entry.value ≠ 0 && entry.value &&& mask = entry.value

/-- The bits of a mask that belong to an entry wholly contained in it. -/
def restrict (e : Enumeration) (mask : UInt64) : UInt64 :=
  (e.flagsIn mask).foldl (fun bits entry => bits ||| entry.value) 0

/-- The bits that a flag contributes. -/
def flagBits (e : Enumeration) : Flag → Except EnumError UInt64
  | .name name => e.valueOf name
  | .value value => .ok (e.restrict value)

/-- The bits of the flags added to `mask`. -/
def addFlags (e : Enumeration) (mask : UInt64) : List Flag → Except EnumError UInt64
  | [] => .ok mask
  | flag :: rest => do
    let bits ← e.flagBits flag
    e.addFlags (mask ||| bits) rest

/-- The mask that the flags combine to. -/
def combine (e : Enumeration) (flags : List Flag) : Except EnumError UInt64 :=
  if e.isBitmask then e.addFlags 0 flags else .error (.notBitmask e.name)

end Enumeration

end Mavlink
