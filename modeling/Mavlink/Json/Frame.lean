import Mavlink.Json.Record
import Mavlink.Link.Message

/-!
# Frames as JSON

Frames and envelopes as JSON records. A payload is an array of numbers, and so is a digest.
-/

namespace Mavlink

namespace Version

/-- The version as JSON. -/
def toJson (v : Version) : Json :=
  .ofString v.name

/-- The version that a JSON value denotes. -/
def ofJson? : Json → Option Version :=
  Json.toCase? [v1, v2] name

end Version

namespace Outcome

/-- The outcome as JSON. -/
def toJson (o : Outcome) : Json :=
  .ofString o.name

/-- The outcome that a JSON value denotes. -/
def ofJson? : Json → Option Outcome :=
  Json.toCase? all name

end Outcome

namespace Bytes

/-- The bytes as JSON. -/
def toJson (b : Bytes) : Json :=
  .ofList (fun x => .ofNat x.toNat) b

/-- The bytes that a JSON value denotes. -/
def ofJson? : Json → Option Bytes :=
  Json.toList? Json.toUInt8?

end Bytes

/-- The digest that a JSON value denotes. -/
def Digest.ofJson? (j : Json) : Option Digest := do
  let b ← Bytes.ofJson? j
  if h : b.toArray.size = 6 then return ⟨b.toArray, h⟩ else none

namespace Signature

/-- The signature as JSON. -/
def toJson (s : Signature) : Json :=
  .record
    [("link_id", .ofNat s.linkId.toNat), ("timestamp", .ofNat s.timestamp.toNat),
      ("digest", Bytes.toJson s.digest.toList)]

/-- The signature that a JSON value denotes. -/
def ofJson? (j : Json) : Option Signature := do
  let r ← JsonRecord.ofJson? ["link_id", "timestamp", "digest"] j
  return { linkId := ← r.get? "link_id" Json.toUInt8?
           timestamp := ← r.get? "timestamp" Json.toUInt64?
           digest := ← r.get? "digest" Digest.ofJson? }

end Signature

namespace Frame

/-- The frame as JSON. -/
def toJson (f : Frame) : Json :=
  .record
    [("version", f.version.toJson), ("sequence", .ofNat f.sequence.toNat),
      ("system_id", .ofNat f.systemId.toNat), ("component_id", .ofNat f.componentId.toNat),
      ("message_id", .ofNat f.messageId.toNat), ("payload", Bytes.toJson f.payload),
      ("checksum", .ofNat f.checksum.toNat), ("signed", .bool f.isSigned),
      ("incompat_flags", .ofNat f.incompatFlags.toNat),
      ("compat_flags", .ofNat f.compatFlags.toNat),
      ("signature", .ofOption Signature.toJson f.signature?), ("outcome", f.outcome.toJson)]

/-- The frame that a JSON value denotes. -/
def ofJson? (j : Json) : Option Frame := do
  let r ← JsonRecord.ofJson?
    ["version", "sequence", "system_id", "component_id", "message_id", "payload", "checksum",
      "signed", "incompat_flags", "compat_flags", "signature", "outcome"] j
  return { version := ← r.get? "version" Version.ofJson?
           sequence := ← r.get? "sequence" Json.toUInt8?
           systemId := ← r.get? "system_id" Json.toUInt8?
           componentId := ← r.get? "component_id" Json.toUInt8?
           messageId := ← r.get? "message_id" Json.toUInt32?
           payload := ← r.get? "payload" Bytes.ofJson?
           checksum := ← r.get? "checksum" Json.toUInt16?
           isSigned := ← r.get? "signed" Json.toBool?
           incompatFlags := ← r.get? "incompat_flags" Json.toUInt8?
           compatFlags := ← r.get? "compat_flags" Json.toUInt8?
           signature? := ← r.getOption? "signature" Signature.ofJson?
           outcome := ← r.get? "outcome" Outcome.ofJson? }

end Frame

namespace Envelope

/-- The envelope as JSON. -/
def toJson (e : Envelope) : Json :=
  .record
    [("version", e.version.toJson), ("sequence", .ofNat e.sequence.toNat),
      ("system_id", .ofNat e.systemId.toNat), ("component_id", .ofNat e.componentId.toNat),
      ("message_id", .ofNat e.messageId.toNat),
      ("message_name", .ofOption Json.ofString e.messageName?),
      ("payload", Bytes.toJson e.payload), ("outcome", e.outcome.toJson)]

/-- The envelope that a JSON value denotes. -/
def ofJson? (j : Json) : Option Envelope := do
  let r ← JsonRecord.ofJson?
    ["version", "sequence", "system_id", "component_id", "message_id", "message_name", "payload",
      "outcome"] j
  return { version := ← r.get? "version" Version.ofJson?
           sequence := ← r.get? "sequence" Json.toUInt8?
           systemId := ← r.get? "system_id" Json.toUInt8?
           componentId := ← r.get? "component_id" Json.toUInt8?
           messageId := ← r.get? "message_id" Json.toUInt32?
           messageName? := ← r.getOption? "message_name" Json.toText?
           payload := ← r.get? "payload" Bytes.ofJson?
           outcome := ← r.get? "outcome" Outcome.ofJson? }

end Envelope

end Mavlink
