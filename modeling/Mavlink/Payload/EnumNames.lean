import Mavlink.Dialect.Registry
import Mavlink.Payload.Value

/-!
# Values given by the names of enumeration entries

A field that refers to an enumeration may be given by name: a scalar field by the name of an entry
or by a list of flags, an array field by a list in which names may stand among the numbers. Numbers
stand for themselves, and a signed integer does so even if the enumeration is unknown.
-/

namespace Mavlink

namespace Registry

/-- The enumeration with the given name. -/
def findEnum (r : Registry) (name : String) : Except EncodeFault Enumeration :=
  match r.enum? name with
  | some e => .ok e
  | none => .error (.unknownEnum name)

end Registry

namespace EnumNames

/-- An item of a list of flags as a flag. The type is that of the field. -/
def flag (t : WireType) : Scalar → Except EncodeFault Flag
  | .text name => .ok (.name name)
  | .uint v => .ok (.value v)
  | .int v => if 0 ≤ v then .ok (.value v.toUInt64) else .error (.outOfRange (.int v) t)
  | v => .error (.typeMismatch .flag v.kind)

/-- The items of a list of flags as flags. -/
def flags (t : WireType) : List Scalar → Except EncodeFault (List Flag)
  | [] => .ok []
  | v :: rest => do
    let f ← flag t v
    let fs ← flags t rest
    return f :: fs

/-- An error of an enumeration as a fault of the value. -/
def lift {α : Type} : Except EnumError α → Except EncodeFault α
  | .ok a => .ok a
  | .error e => .error (.enumeration e)

/-- An item of an array, with a name replaced by the value of its entry. -/
def item (e : Enumeration) : Scalar → Except EncodeFault Scalar
  | .text name => do return .uint (← lift (e.valueOf name))
  | v => .ok v

/-- The items of an array, with names replaced by the values of their entries. -/
def items (e : Enumeration) : List Scalar → Except EncodeFault (List Scalar)
  | [] => .ok []
  | v :: rest => do
    let w ← item e v
    let ws ← items e rest
    return w :: ws

/-- The integer that stands for an integer in a field that refers to an enumeration. -/
def integer (r : Registry) (enumName : String) (v : Int64) : Int64 :=
  match r.enum? enumName with
  | some e => e.valueOfInt v
  | none => v

/-- The value of a field that refers to an enumeration, with names replaced by what they
denote. -/
def resolveIn (r : Registry) (enumName : String) (shape : Shape) (v : Value) :
    Except EncodeFault Value :=
  match shape, v with
  | _, .scalar (.int n) => .ok (.scalar (.int (integer r enumName n)))
  | .text _, v => .ok v
  | _, .scalar (.text name) => do
    let e ← r.findEnum enumName
    return .scalar (.uint (← lift (e.valueOf name)))
  | .scalar t, .array vs => do
    let fs ← flags t vs
    let e ← r.findEnum enumName
    return .scalar (.uint (← lift (e.combine fs)))
  | .array _ _, .array vs => do
    let e ← r.findEnum enumName
    return .array (← items e vs)
  | _, v => .ok v

/-- The value of a slot's field, with names replaced by what they denote. -/
def resolve (r : Registry) (s : Slot) (v : Value) : Except EncodeFault Value :=
  match s.field.enumName? with
  | none => .ok v
  | some enumName => resolveIn r enumName s.shape v

end EnumNames

end Mavlink
