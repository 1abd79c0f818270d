import Mavlink.Json.Basic

/-!
# Decoding JSON values

A record is written as an object with a member for each of its fields, or as an array with the
values of the fields in their order. Members that no field is named after are ignored. In an
object a field must not occur twice and a field that may be missing can be left out; in an array
only fields with a default can be left out, at the end.

One of several alternatives is written by its name, or as an object whose only member has that
name.
-/

namespace Mavlink

namespace Json

/-! ### Plain values -/

/-- The truth value, if the value is one. -/
def toBool? : Json → Option Bool
  | bool b => some b
  | _ => none

/-- The natural number below `bound`, if the value is one. -/
def toNat? (bound : Nat) : Json → Option Nat
  | number (.whole n) => if 0 ≤ n ∧ n < bound then some n.toNat else none
  | _ => none

/-- The number of eight bits, if the value is one. -/
def toUInt8? (j : Json) : Option UInt8 :=
  (j.toNat? UInt8.size).map UInt8.ofNat

/-- The number of sixteen bits, if the value is one. -/
def toUInt16? (j : Json) : Option UInt16 :=
  (j.toNat? UInt16.size).map UInt16.ofNat

/-- The number of 32 bits, if the value is one. -/
def toUInt32? (j : Json) : Option UInt32 :=
  (j.toNat? UInt32.size).map UInt32.ofNat

/-- The number of 64 bits, if the value is one. -/
def toUInt64? (j : Json) : Option UInt64 :=
  (j.toNat? UInt64.size).map UInt64.ofNat

/-- The count, if the value is one; counts have 64 bits. -/
def toCount? (j : Json) : Option Nat :=
  j.toNat? UInt64.size

/-- The text, if the value is one. -/
def toText? : Json → Option String
  | text s? => s?
  | _ => none

/-- The list of what the items of an array decode to. -/
def toList? {α : Type} (decode : Json → Option α) : Json → Option (List α)
  | array items => items.mapM decode
  | _ => none

/-- What the value decodes to, or nothing if it is null. -/
def toOption? {α : Type} (decode : Json → Option α) : Json → Option (Option α)
  | null => some none
  | j => (decode j).map some

/-! ### Alternatives -/

/-- The name of an alternative and what comes with it. -/
def toVariant? : Json → Option (String × Option Json)
  | text (some name) => some (name, none)
  | object [(some name, content)] => some (name, some content)
  | _ => none

/-- One of several alternatives that come with nothing. -/
def toCase? {α : Type} (cases : List α) (name : α → String) (j : Json) : Option α :=
  match j.toVariant? with
  | some (n, none) | some (n, some null) => cases.find? fun a => name a = n
  | _ => none

end Json

/-! ### Records -/

/-- The values of a record by the names of its fields. In a *named* record, one that is written as
an object, fields that may be missing can be left out. -/
structure JsonRecord where
  isNamed : Bool
  members : List (String × Json)

namespace JsonRecord

/-- The members of an object, if all their names can be read. -/
def readable? (members : List (Option String × Json)) : Option (List (String × Json)) :=
  members.mapM fun m => m.1.map fun name => (name, m.2)

/-- The record with the given fields that a value is. -/
def ofJson? (fields : List String) : Json → Option JsonRecord
  | .object members => do
    let members ← readable? members
    if fields.all fun field => (members.filter fun m => m.1 = field).length ≤ 1 then
      return ⟨true, members⟩
    else none
  | .array items => if items.length ≤ fields.length then some ⟨false, fields.zip items⟩ else none
  | _ => none

/-- The value of a field. -/
def value? (r : JsonRecord) (field : String) : Option Json :=
  r.members.lookup field

/-- What a field that must be there decodes to. -/
def get? {α : Type} (r : JsonRecord) (field : String) (decode : Json → Option α) : Option α :=
  (r.value? field).bind decode

/-- What a field with a default decodes to. -/
def getD? {α : Type} (r : JsonRecord) (field : String) (default : α) (decode : Json → Option α) :
    Option α :=
  match r.value? field with
  | none => some default
  | some j => decode j

/-- What a field that may be missing decodes to. -/
def getOption? {α : Type} (r : JsonRecord) (field : String) (decode : Json → Option α) :
    Option (Option α) :=
  match r.value? field with
  | none => if r.isNamed then some none else none
  | some j => j.toOption? decode

/-- Whether there is no member but those that the fields are named after. -/
def hasOnly (r : JsonRecord) (fields : List String) : Bool :=
  r.members.all fun m => fields.contains m.1

end JsonRecord

end Mavlink
