import Mavlink.Bytes

/-!
# Checked accesses

A buffer is read and written by position. An access beyond the end of a buffer, a copy between
parts of different lengths, a cut into pieces without bytes and a shift by more than a number's
width all stop a program. Here each of them is a step that can fail, so that a computation made of
such steps shows whether one of its accesses does.

A computation may also fail with an error of its own. The two are kept apart: it is the accesses
that must not fail.
-/

namespace Mavlink

/-- An access that stops a program. -/
inductive AccessFault
  | index (position length : Nat)
  | range (start stop length : Nat)
  | copy (target source : Nat)
  | pieceSize
  | shift (amount width : Nat)
  deriving DecidableEq, Repr

/-- The text with which the program stops. Whether a range ends before it starts is asked before
whether it ends within the buffer. -/
def AccessFault.message : AccessFault → String
  | index position length =>
    s!"index out of bounds: the len is {length} but the index is {position}"
  | range start stop length =>
    if stop < start then s!"slice index starts at {start} but ends at {stop}"
    else s!"range end index {stop} out of range for slice of length {length}"
  | copy target source =>
    s!"copy_from_slice: source slice length ({source}) does not match " ++
      s!"destination slice length ({target})"
  | pieceSize => "chunk size must be non-zero"
  | shift _ _ => "attempt to shift with overflow"

/-- How a computation fails: by an access, or with an error of its own. -/
inductive Failure (ε : Type)
  | access (fault : AccessFault)
  | own (error : ε)
  deriving DecidableEq, Repr

/-- A computation whose accesses are **checked**. -/
abbrev Checked (ε α : Type) := Except (Failure ε) α

namespace Checked

variable {ε α : Type}

/-- A computation without accesses. -/
def ofExcept (x : Except ε α) : Checked ε α :=
  x.mapError .own

/-- The byte at a position. -/
def index (b : Bytes) (i : Nat) : Checked ε UInt8 :=
  match b[i]? with
  | some x => .ok x
  | none => .error (.access (.index i b.length))

/-- The bytes from one position to before another one. -/
def range (b : Bytes) (start stop : Nat) : Checked ε Bytes :=
  if start ≤ stop ∧ stop ≤ b.length then .ok (b.slice start (stop - start))
  else .error (.access (.range start stop b.length))

/-- A target with as many bytes copied over it as it has. -/
def copy (target source : Bytes) : Checked ε Bytes :=
  if target.length = source.length then .ok source
  else .error (.access (.copy target.length source.length))

/-- A target with bytes copied over those from one position to before another one. -/
def copyInto (target : Bytes) (start stop : Nat) (source : Bytes) : Checked ε Bytes := do
  let part ← range target start stop
  let copied ← copy part source
  return Bytes.overwrite start copied target

/-- The bytes cut into pieces of a size. What is left over is no piece. -/
def pieces (size : Nat) (b : Bytes) : Checked ε (List Bytes) :=
  if size = 0 then .error (.access .pieceSize) else .ok (b.wholePieces size)

/-- A number of 64 bits without its lowest bits. -/
def shiftRight (n : UInt64) (amount : Nat) : Checked ε UInt64 :=
  if amount < 64 then .ok (n >>> UInt64.ofNat amount) else .error (.access (.shift amount 64))

/-- A power of two that a signed number of 128 bits has room for. -/
def power (amount : Nat) : Checked ε Int :=
  if amount < 127 then .ok (1 <<< amount : Nat) else .error (.access (.shift amount 128))

end Checked

end Mavlink
