import Mavlink.Dialect.Registry
import Mavlink.Frame.Packet
import Mavlink.Signing
import Mavlink.Text.Quoted

/-!
# Receiving frames

A link is what two peers agree on: the dialect that they speak and the keys that they sign with.
Frames are received and sent over a link.

Received bytes may begin with anything. The receiver looks for the first position at which a packet
of a known message with a sufficient payload begins, and gives up the bytes before it. Where a
marker begins a packet that has not arrived completely, it waits: the bytes from the marker on are
kept until more arrive. A packet that is long enough but cannot be a frame is given up one byte at
a time, so that a frame that begins inside it is still found.

A frame is reported even if its checksum or its signature is wrong; the outcome says so.

A reader collects bytes as they arrive, in pieces of any size, and hands out the frames in them.

## Main results

* `scan_rest_lt`: a frame uses up bytes.
-/

namespace Mavlink

/-- The dialect and the keys that frames are exchanged with. -/
structure Link where
  registry : Registry
  keys : KeyProvider

namespace Link

/-- What is shown of the receiving end. -/
def receiverText (l : Link) : String :=
  s!"Framer \x7b dialect: {Text.quoted l.registry.dialectName}, " ++
    s!"validates_signatures: {l.keys.canValidate} \x7d"

/-- What is shown of the sending end. -/
def senderText (l : Link) : String :=
  s!"FramePacker \x7b dialect: {Text.quoted l.registry.dialectName}, .. \x7d"

/-- The outcome for a frame with a correct checksum and the given signature. -/
def verifySignature (l : Link) (p : Packet) (s : Signature) : Outcome :=
  if l.keys.canValidate then
    match l.keys.key? ⟨p.header.systemId, p.header.componentId, s.linkId⟩ with
    | none => .signatureFailed
    | some key =>
      if key.digest (Packet.signedBytes p.header p.payload p.checksum) = s.digest then .ok
      else .signatureFailed
  else .unsigned

/-- The outcome for a packet whose message has the given extra byte. -/
def verify (l : Link) (p : Packet) (crcExtra : UInt8) : Outcome :=
  if p.checksum = Crc.frame (Packet.checkedBytes p.header p.payload) crcExtra then
    match p.header.version, p.signature? with
    | .v1, _ => .ok
    | .v2, none => .unsigned
    | .v2, some s => l.verifySignature p s
  else .crcFailed

/-- The frame that a packet carries. -/
def frameOf (p : Packet) (outcome : Outcome) : Frame where
  version := p.header.version
  sequence := p.header.sequence
  systemId := p.header.systemId
  componentId := p.header.componentId
  messageId := p.header.messageId
  payload := p.payload
  checksum := p.checksum
  isSigned := p.header.isSigned
  incompatFlags := p.header.incompatFlags
  compatFlags := p.header.compatFlags
  signature? := p.signature?
  outcome := outcome

/-- The frame that a packet carries, if its message is known and its payload is long enough. -/
def accept? (l : Link) (p : Packet) : Option Frame := do
  let minSize ← l.registry.minPayloadSize? p.header.version p.header.messageId
  let crcExtra ← l.registry.crcExtra? p.header.messageId
  if p.payload.length < minSize then none
  else some (frameOf p (l.verify p crcExtra))

/-- What the bytes from a position on begin with. -/
inductive Candidate
  | rejected
  | incomplete
  | accepted (frame : Frame) (rest : Bytes)
  deriving DecidableEq

/-- What the bytes begin with. -/
def candidate (l : Link) (b : Bytes) : Candidate :=
  match b.head?.bind Version.ofMarker? with
  | none => .rejected
  | some version =>
    match Packet.parse? version b with
    | none => .incomplete
    | some (p, rest) =>
      match l.accept? p with
      | none => .rejected
      | some frame => .accepted frame rest

/-- The first frame in the bytes, if one has arrived, and the bytes that are kept. -/
def scan (l : Link) : Bytes → Option Frame × Bytes
  | [] => (none, [])
  | x :: b =>
    match l.candidate (x :: b) with
    | .rejected => l.scan b
    | .incomplete => (none, x :: b)
    | .accepted frame rest => (some frame, rest)

/-- A frame that is accepted uses up bytes. -/
theorem length_rest_lt_of_accepted {l : Link} {b rest : Bytes} {f : Frame}
    (h : l.candidate b = .accepted f rest) : rest.length < b.length := by
  unfold candidate at h
  split at h
  · contradiction
  · split at h
    · contradiction
    · next hp =>
      split at h
      · contradiction
      · obtain ⟨-, rfl⟩ := Candidate.accepted.injEq .. ▸ h
        exact Packet.length_rest_lt hp

/-- A frame uses up bytes. -/
theorem scan_rest_lt {l : Link} {b rest : Bytes} {f : Frame}
    (h : l.scan b = (some f, rest)) : rest.length < b.length := by
  induction b with
  | nil => simp [scan] at h
  | cons x b ih =>
    unfold scan at h
    split at h
    · exact Nat.lt_succ_of_lt (ih h)
    · simp at h
    · next hc =>
      obtain ⟨-, rfl⟩ := Prod.mk.injEq .. ▸ h
      exact length_rest_lt_of_accepted hc

end Link

/-! ### Readers -/

namespace Link

/-- All frames in the bytes, and the bytes that are kept. -/
def drain (l : Link) (b : Bytes) : List Frame × Bytes :=
  match _h : l.scan b with
  | (none, rest) => ([], rest)
  | (some frame, rest) =>
    let (frames, kept) := l.drain rest
    (frame :: frames, kept)
termination_by b.length
decreasing_by exact scan_rest_lt ‹_›

end Link

/-- A link and the bytes that have arrived over it and are not used up. -/
structure Reader where
  link : Link
  buffer : Bytes

namespace Reader

/-- A reader that has received nothing. -/
def ofLink (l : Link) : Reader := ⟨l, []⟩

/-- Takes in more bytes. -/
def extend (r : Reader) (data : Bytes) : Reader :=
  { r with buffer := r.buffer ++ data }

/-- The next frame, if one has arrived. -/
def next (r : Reader) : Option Frame × Reader :=
  let (frame?, rest) := r.link.scan r.buffer
  (frame?, { r with buffer := rest })

/-- Takes in more bytes and hands out all frames that have arrived. -/
def push (r : Reader) (data : Bytes) : List Frame × Reader :=
  let (frames, rest) := r.link.drain (r.buffer ++ data)
  (frames, { r with buffer := rest })

/-- Takes in pieces one after the other. -/
def pushAll (r : Reader) : List Bytes → List (List Frame) × Reader
  | [] => ([], r)
  | piece :: pieces =>
    let (frames, r) := r.push piece
    let (more, r) := r.pushAll pieces
    (frames :: more, r)

/-- Forgets the bytes that have arrived. -/
def clear (r : Reader) : Reader :=
  { r with buffer := [] }

/-- The number of bytes that have arrived and are not used up. -/
def buffered (r : Reader) : Nat :=
  r.buffer.length

end Reader

end Mavlink
