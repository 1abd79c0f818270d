import Mavlink.Dialect.Declaration
import Mavlink.Dialect.Layout

/-!
# Registries

A registry is a compiled dialect: the layouts of its messages, found by id or by name, and its
enumerations, found by name. Message ids are unique. Where two messages or two enumerations share
a name, the one declared last is found under it.
-/

namespace Mavlink

/-- A compiled dialect, with its messages and enumerations in the order of their declaration. -/
structure Registry where
  dialectName : String
  layouts : List Layout
  enums : List Enumeration
  deriving DecidableEq, Repr

namespace Registry

/-- The layouts of messages declared after others whose layouts are `done`. -/
def compileMessages (done : List Layout) :
    List MessageDeclaration → Except CompileError (List Layout)
  | [] => .ok done
  | d :: rest =>
    if Version.v2.maxMessageId < d.id then .error (.messageIdOutOfRange d.name d.id)
    else match done.find? fun l => l.id = d.id with
      | some first => .error (.duplicateMessageId d.id first.name d.name)
      | none => do
        let layout ← Layout.compile d
        compileMessages (done ++ [layout]) rest

/-- Compiles a dialect. -/
def compile (d : Dialect) : Except CompileError Registry := do
  let layouts ← compileMessages [] d.messages
  return { dialectName := d.name, layouts, enums := d.enums }

/-- The message with the given id. -/
def message? (r : Registry) (id : UInt32) : Option Layout :=
  r.layouts.find? fun l => l.id = id

/-- The message declared last under the given name. -/
def messageNamed? (r : Registry) (name : String) : Option Layout :=
  r.layouts.reverse.find? fun l => l.name = name

/-- The enumeration declared last under the given name. -/
def enum? (r : Registry) (name : String) : Option Enumeration :=
  r.enums.reverse.find? fun e => e.name = name

/-- The messages in ascending order of their ids. -/
def messages (r : Registry) : List Layout :=
  r.layouts.mergeSort fun a b => a.id ≤ b.id

/-- The number of messages. -/
def size (r : Registry) : Nat :=
  r.layouts.length

/-- Whether there are no messages. -/
def isEmpty (r : Registry) : Bool :=
  r.layouts.isEmpty

/-- The number of enumerations that can be found. -/
def enumCount (r : Registry) : Nat :=
  (r.enums.map Enumeration.name).eraseDups.length

/-- The extra byte of a message. -/
def crcExtra? (r : Registry) (id : UInt32) : Option UInt8 :=
  (r.message? id).map Layout.crcExtra

/-- The least length of a message's payload in a frame of the given version: only frames of the
second version may leave extension fields out. -/
def minPayloadSize? (r : Registry) (version : Version) (id : UInt32) : Option Nat :=
  (r.message? id).map fun l =>
    match version with
    | .v1 => l.maxSize
    | .v2 => l.minSize

/-- A line about the dialect and the display of each of its messages. -/
def display (r : Registry) : String :=
  s!"dialect '{r.dialectName}': {r.size} messages, {r.enumCount} enums\n" ++
    String.join (r.messages.map Layout.display)

end Registry

end Mavlink
