import Mavlink.Bytes
import Mavlink.Version

/-!
# Frames

A frame carries the payload of one message together with the identity of its sender, a sequence
number, a checksum and, if it is signed, a signature. The outcome of the checks that a received
frame went through is part of the frame: a frame that failed a check is still a frame.
-/

namespace Mavlink

/-- How a frame fared when it was checked. -/
inductive Outcome
  | ok
  | unsigned
  | crcFailed
  | signatureFailed
  | crcAndSignatureFailed
  | malformed
  | unknown
  deriving DecidableEq, Repr

namespace Outcome

/-- What the outcome is called. -/
def name : Outcome → String
  | ok => "Ok"
  | unsigned => "Unsigned"
  | crcFailed => "CrcFailed"
  | signatureFailed => "SignatureFailed"
  | crcAndSignatureFailed => "CrcAndSignatureFailed"
  | malformed => "Malformed"
  | unknown => "Unknown"

/-- All outcomes. -/
def all : List Outcome :=
  [ok, unsigned, crcFailed, signatureFailed, crcAndSignatureFailed, malformed, unknown]

/-- Whether the frame may be used. -/
def isValid : Outcome → Bool
  | ok | unsigned => true
  | _ => false

end Outcome

/-- The part of a hash that a signature carries. -/
abbrev Digest := Vector UInt8 6

/-- The digest that makes up the first bytes of a hash. -/
def Digest.ofBytes (b : Bytes) : Digest :=
  Bytes.toVector 6 b

/-- A signature: the link that the frame was sent on, the time of signing and the digest. -/
structure Signature where
  linkId : UInt8
  timestamp : UInt64
  digest : Digest
  deriving DecidableEq, Repr

namespace Signature

/-- The number of bytes of a signature. -/
def size : Nat := 13

/-- Timestamps have 48 bits. -/
def timestampBound : UInt64 := 0x1000000000000

/-- A signature without a digest. The timestamp is taken modulo its bound. -/
def blank (linkId : UInt8) (timestamp : UInt64) : Signature :=
  { linkId, timestamp := timestamp % timestampBound, digest := Digest.ofBytes [] }

/-- The bytes of a signature; of the timestamp only the lower 48 bits are written. -/
def toBytes (s : Signature) : Bytes :=
  s.linkId :: Bytes.littleEndian 6 s.timestamp.toNat ++ s.digest.toList

/-- The signature that the bytes encode. -/
def ofBytes (b : Bytes) : Signature where
  linkId := b.headD 0
  timestamp := UInt64.ofNat (Bytes.fromLittleEndian (Bytes.slice 1 6 b))
  digest := Digest.ofBytes (Bytes.slice 7 6 b)

/-- Every signature takes the same number of bytes. -/
@[simp] theorem length_toBytes (s : Signature) : s.toBytes.length = size := by
  simp [toBytes, size]

end Signature

/-- The bit of the incompatibility flags that announces a signature. -/
def signedFlag : UInt8 := 1

/-- A frame. -/
structure Frame where
  version : Version
  sequence : UInt8
  systemId : UInt8
  componentId : UInt8
  messageId : UInt32
  payload : Bytes
  checksum : UInt16
  isSigned : Bool
  incompatFlags : UInt8
  compatFlags : UInt8
  signature? : Option Signature
  outcome : Outcome
  deriving DecidableEq, Repr

namespace Frame

/-- Whether the frame may be used. -/
def isValid (f : Frame) : Bool :=
  f.outcome.isValid

/-- One line about the frame. -/
def display (f : Frame) : String :=
  s!"{f.version.name} #{f.messageId} seq={f.sequence} sys={f.systemId} comp={f.componentId} " ++
    s!"len={f.payload.length} {f.outcome.name}"

end Frame

end Mavlink
