import Mavlink.Frame.Draft
import Mavlink.Link.Receive
import Mavlink.Link.Send
import Mavlink.Payload.Codec

/-!
# Messages over a link

What a frame says: its message's name and the fields of its payload, and how fields are put into a
frame that is to be sent.
-/

namespace Mavlink

/-- What a receiver that does not look into payloads needs of a frame. -/
structure Envelope where
  version : Version
  sequence : UInt8
  systemId : UInt8
  componentId : UInt8
  messageId : UInt32
  messageName? : Option String
  payload : Bytes
  outcome : Outcome
  deriving DecidableEq, Repr

namespace Link

/-- The name of a message. -/
def messageName? (l : Link) (id : UInt32) : Option String :=
  (l.registry.message? id).map Layout.name

/-- The envelope of a frame. -/
def envelope (l : Link) (f : Frame) : Envelope where
  version := f.version
  sequence := f.sequence
  systemId := f.systemId
  componentId := f.componentId
  messageId := f.messageId
  messageName? := l.messageName? f.messageId
  payload := f.payload
  outcome := f.outcome

/-- The fields of a frame's payload. -/
def fieldsOf (l : Link) (f : Frame) : Except PayloadError Fields :=
  l.registry.decodePayload f.messageId f.payload

/-- The frame with the given message for its content. -/
def fill (l : Link) (f : Frame) (id : UInt32) (fields : Fields) : Except PayloadError Frame :=
  match l.registry.encodePayload id fields with
  | .error e => .error e
  | .ok payload => .ok { f with payload, messageId := id }

end Link

end Mavlink
