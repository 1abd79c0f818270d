import Mavlink.Frame.Draft
import Mavlink.Frame.Packet
import Mavlink.Link.Receive

/-!
# Sending frames

Sending a frame completes it: the checksum and, for a signed frame, the digest are computed, the
flag that announces a signature is made to agree with it, and the outcome becomes the one that the
receiver will find. A frame that cannot be sent leaves nothing behind.
-/

namespace Mavlink

/-- A completed frame and its bytes. -/
structure Packed where
  frame : Frame
  bytes : Bytes
  deriving DecidableEq

namespace Link

/-- The signature and the key that a frame is to be signed with, if it is to be signed. -/
def signing? (l : Link) (f : Frame) : Except FrameError (Option (Signature × SecretKey)) :=
  if f.isSigned then
    match f.version, f.signature? with
    | .v1, _ => .error .signedV1
    | .v2, none => .error .missingSignature
    | .v2, some s =>
      match l.keys.key? ⟨f.systemId, f.componentId, s.linkId⟩ with
      | none => .error (.signingKeyUnavailable f.systemId f.componentId s.linkId)
      | some key => .ok (some (s, key))
  else .ok none

/-- The incompatibility flags of a frame that is sent with or without a signature. -/
def sentFlags (f : Frame) (signed : Bool) : UInt8 :=
  match f.version with
  | .v1 => f.incompatFlags
  | .v2 => if signed then f.incompatFlags ||| signedFlag else f.incompatFlags &&& ~~~signedFlag

/-- The header that a frame is sent with. -/
def headerOf (f : Frame) (incompatFlags : UInt8) : Header where
  version := f.version
  incompatFlags := incompatFlags
  compatFlags := f.compatFlags
  sequence := f.sequence
  systemId := f.systemId
  componentId := f.componentId
  messageId := f.messageId

/-- Completes a frame whose message has the given extra byte. -/
def complete (f : Frame) (crcExtra : UInt8) (signing? : Option (Signature × SecretKey)) : Packed :=
  let flags := sentFlags f signing?.isSome
  let header := headerOf f flags
  let checksum := Crc.frame (Packet.checkedBytes header f.payload) crcExtra
  let sent := { f with incompatFlags := flags, checksum }
  match signing? with
  | none =>
    { frame := { sent with outcome := match f.version with
        | .v1 => .ok
        | .v2 => .unsigned }
      bytes := Packet.toBytes { header, payload := f.payload, checksum, signature? := none } }
  | some (s, key) =>
    let signature := { s with digest := key.digest (Packet.signedBytes header f.payload checksum) }
    { frame := { sent with signature? := some signature, outcome := .ok }
      bytes :=
        Packet.toBytes { header, payload := f.payload, checksum, signature? := some signature } }

/-- Completes a frame and turns it into bytes. -/
def pack (l : Link) (f : Frame) : Except FrameError Packed :=
  if maxPayloadSize < f.payload.length then .error (.payloadTooLarge f.payload.length)
  else if f.version.maxMessageId < f.messageId then
    .error (.messageIdOutOfRange f.messageId f.version)
  else
    match l.registry.crcExtra? f.messageId with
    | none => .error (.unknownMessage f.messageId)
    | some crcExtra =>
      match l.signing? f with
      | .error e => .error e
      | .ok signing? => .ok (complete f crcExtra signing?)

/-- A stream that is being written and the frame that was sent last. -/
structure Sent where
  stream : Bytes
  frame : Frame
  written : Nat
  deriving DecidableEq

/-- Sends a frame at the end of a stream. -/
def send (l : Link) (stream : Bytes) (f : Frame) : Except FrameError Sent :=
  match l.pack f with
  | .error e => .error e
  | .ok packed =>
    .ok { stream := stream ++ packed.bytes, frame := packed.frame, written := packed.bytes.length }

end Link

end Mavlink
