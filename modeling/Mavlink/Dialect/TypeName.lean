import Mavlink.Dialect.WireType
import Mavlink.Text.Lexical

/-!
# Declared types

The type of a field is declared as the name of a wire type. A field that is an array has its
length in brackets after the name, or given apart from the type; both may be given if they agree.
Blanks around the name and around the length do not count.
-/

namespace Mavlink

/-- Why a declared type was rejected. -/
inductive TypeError
  | unknownType
  | invalidLength
  deriving DecidableEq, Repr

namespace TypeName

/-- The name under which the version byte of a heartbeat is declared. -/
def versionAlias : String :=
  "uint8_t_mavlink_version"

/-- The wire type that a declared type names, whatever its brackets say. -/
def wireType? (cs : List Char) : Option WireType :=
  let name := Text.trim cs
  if name = versionAlias.toList then some .uint8
  else
    let base := if '[' ∈ name then Text.trimEnd (name.takeWhile (· ≠ '[')) else name
    WireType.all.find? fun t => t.name.toList = base

/-- What the brackets of a declared type say. -/
inductive Brackets
  | absent
  | length (n : Nat)
  | malformed
  deriving DecidableEq, Repr

/-- Lengths are numbers of 64 bits. -/
def lengthBound : Nat :=
  UInt64.size

/-- Reads the text between the first opening and the first closing bracket. -/
def brackets (cs : List Char) : Brackets :=
  match cs.idxOf? '[', cs.idxOf? ']' with
  | none, none => .absent
  | some opening, some closing =>
    if opening + 1 < closing then
      let inner := (cs.drop (opening + 1)).take (closing - (opening + 1))
      match Text.count? lengthBound (Text.trim inner) with
      | some n => .length n
      | none => .malformed
    else .malformed
  | _, _ => .malformed

/-- The array length of a field with the given brackets and the given explicit length; zero is
the length of a field that is no array. -/
def arrayLength? : Brackets → Nat → Option Nat
  | .absent, explicit => some explicit
  | .length n, explicit => if n ≠ 0 ∧ (explicit = 0 ∨ explicit = n) then some n else none
  | .malformed, _ => none

/-- The wire type and the array length of a field that is declared with a type and an explicit
length. -/
def resolve (typeName : String) (explicit : Nat) : Except TypeError (WireType × Nat) :=
  match wireType? typeName.toList with
  | none => .error .unknownType
  | some t =>
    match arrayLength? (brackets typeName.toList) explicit with
    | none => .error .invalidLength
    | some n => .ok (t, n)

end TypeName

/-- The wire type that a declared type names, whatever its brackets say. -/
def WireType.ofTypeName? (typeName : String) : Option WireType :=
  TypeName.wireType? typeName.toList

end Mavlink
