import Mavlink.Link.Message

/-!
# Sending in place

An outbox is a stream together with the frame that is to be sent at its end. Sending works on the
outbox in place: it appends to the stream piece by piece, reads back what it has appended to compute
the checksum and the digest, and changes the frame as it goes. Nothing is undone when a step fails;
so all that can fail comes before the first piece.

`Link.send` says the same of a stream and a frame that are given and returned as values.
-/

namespace Mavlink

/-- A stream and the frame that is to be sent at its end. -/
structure Outbox where
  stream : Bytes
  frame : Frame
  deriving DecidableEq, Repr

namespace Outbox

/-- Work on an outbox that may fail. What was changed before a failure stays changed. -/
abbrev Work (α : Type) := EStateM FrameError Outbox α

/-- Appends to the stream. -/
def append (b : Bytes) : Work Unit :=
  modify fun o => { o with stream := o.stream ++ b }

/-- What stands in the stream from a position on. -/
def appendedFrom (start : Nat) : Work Bytes :=
  return (← get).stream.drop start

/-- Changes the frame. -/
def revise (change : Frame → Frame) : Work Unit :=
  modify fun o => { o with frame := change o.frame }

/-- Checks all that can hinder the frame from being sent: returns the extra byte of its message, and
the signature and the key if it is to be signed. -/
def check (l : Link) : Work (UInt8 × Option (Signature × SecretKey)) := do
  let f := (← get).frame
  if maxPayloadSize < f.payload.length then
    throw (.payloadTooLarge f.payload.length)
  if f.version.maxMessageId < f.messageId then
    throw (.messageIdOutOfRange f.messageId f.version)
  let some crcExtra := l.registry.crcExtra? f.messageId
    | throw (.unknownMessage f.messageId)
  let signing? ← MonadExcept.ofExcept (l.signing? f)
  return (crcExtra, signing?)

/-- Appends the header. In the second version the flags of the frame become those of the header. -/
def appendHeader (signed : Bool) : Work Unit := do
  let f := (← get).frame
  match f.version with
  | .v1 => append ((Link.headerOf f f.incompatFlags).toBytes f.payload.length)
  | .v2 =>
    let flags := Link.sentFlags f signed
    append ((Link.headerOf f flags).toBytes f.payload.length)
    revise fun f => { f with incompatFlags := flags }

/-- Appends the checksum of what stands behind the marker. -/
def appendChecksum (start : Nat) (crcExtra : UInt8) : Work Unit := do
  let checksum := Crc.frame (← appendedFrom (start + 1)) crcExtra
  append (Bytes.littleEndian 2 checksum.toNat)
  revise fun f => { f with checksum }

/-- Appends the signature, with the digest of all that stands before it, if the frame is to be
signed. The outcome of the frame becomes the one that its receiver will find. -/
def appendSignature (start : Nat) : Option (Signature × SecretKey) → Work Unit
  | some (s, key) => do
    let s := { s with digest := key.digest (← appendedFrom start) }
    append s.toBytes
    revise fun f => { f with signature? := some s, outcome := .ok }
  | none =>
    revise fun f => { f with outcome := match f.version with
      | .v1 => .ok
      | .v2 => .unsigned }

/-- Sends the frame. The result is the number of bytes that were appended. -/
def send (l : Link) : Work Nat := do
  let (crcExtra, signing?) ← check l
  let start := (← get).stream.length
  appendHeader signing?.isSome
  append (← get).frame.payload
  appendChecksum start crcExtra
  appendSignature start signing?
  return (← get).stream.length - start

end Outbox

/-- Fills a frame in place with the given message for its content. -/
def Frame.fill (l : Link) (id : UInt32) (fields : Fields) : EStateM PayloadError Frame Unit := do
  let payload ← MonadExcept.ofExcept (l.registry.encodePayload id fields)
  modify fun f => { f with payload }
  modify fun f => { f with messageId := id }

end Mavlink
