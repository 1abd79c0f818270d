import Mavlink.Dialect.Layout
import Mavlink.Frame.Basic
import Mavlink.Payload.Value
import Mavlink.Version

/-!
# Drafts of frames

A frame to be sent starts as a draft: everything but the protocol version has a default. The flag
that announces a signature is set exactly if the draft asks for one. The checksum and the digest
are computed when the frame is sent.

A frame that could not be made or sent has an error that says why. `Error` joins these errors with
those of dialects and payloads, where one operation can meet several of them.
-/

namespace Mavlink

/-! ### Errors -/

/-- Why a frame could not be made or sent. -/
inductive FrameError
  | missingVersion
  | payloadTooLarge (size : Nat)
  | messageIdOutOfRange (id : UInt32) (version : Version)
  | unknownMessage (id : UInt32)
  | signedV1
  | missingSignature
  | signingKeyUnavailable (systemId componentId linkId : UInt8)
  deriving DecidableEq, Repr

/-- The text of the error. -/
def FrameError.message : FrameError → String
  | missingVersion => "MAVLink protocol version is not specified"
  | payloadTooLarge size => s!"payload of {size} bytes exceeds 255 bytes"
  | messageIdOutOfRange id version =>
    s!"message id #{id} can't be represented in {version.name} frames"
  | unknownMessage id => s!"unknown message id #{id}"
  | signedV1 => "MAVLink 1 frames can't be signed"
  | missingSignature => "signed MAVLink 2 frame has no signature"
  | signingKeyUnavailable systemId componentId linkId =>
    s!"no signing key for system #{systemId}, component #{componentId}, link #{linkId}"

/-- Why an operation failed. -/
inductive Error
  | compile (error : CompileError)
  | payload (error : PayloadError)
  | frame (error : FrameError)
  deriving DecidableEq, Repr

/-- The text of the error, with the stage that it belongs to. -/
def Error.message : Error → String
  | compile error => "dialect compilation error: " ++ error.message
  | payload error => "payload error: " ++ error.message
  | frame error => "frame error: " ++ error.message

/-! ### Drafts -/

/-- A frame that is being made; `signing?` holds the link and the timestamp of a signature. -/
structure Draft where
  version? : Option Version := none
  sequence : UInt8 := 0
  systemId : UInt8 := 0
  componentId : UInt8 := 0
  messageId : UInt32 := 0
  payload : Bytes := []
  compatFlags : UInt8 := 0
  incompatFlags : UInt8 := 0
  signing? : Option (UInt8 × UInt64) := none

/-- The frame that the draft describes, if its version is given. -/
def Draft.build (d : Draft) : Except FrameError Frame :=
  match d.version? with
  | none => .error .missingVersion
  | some version =>
    let flags := d.incompatFlags &&& ~~~signedFlag
    .ok {
      version
      sequence := d.sequence
      systemId := d.systemId
      componentId := d.componentId
      messageId := d.messageId
      payload := d.payload
      checksum := 0
      isSigned := d.signing?.isSome
      incompatFlags := if d.signing?.isSome then flags ||| signedFlag else flags
      compatFlags := d.compatFlags
      signature? := d.signing?.map fun (linkId, timestamp) => Signature.blank linkId timestamp
      outcome := .unknown }

end Mavlink
