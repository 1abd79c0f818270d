import Mavlink.Frame.Basic
import Mavlink.Health.Detection

/-!
# Arrivals

Frames of a system are numbered modulo 256. The *head* is the frame that the numbering has reached.
Each frame that arrives is classified by the last frame with the same number and by the head:

* if the last frame with its number was seen a short time ago, the frame is a repetition of that
  frame or, if its content differs, in conflict with it;
* else, if its number is up to 127 ahead of the head, it becomes the head, and the numbers between
  are lost;
* else it is late, by a small distance and a short time, or it is suspiciously far back. A jump back
  to the first numbers after a long silence looks like a restart of the sender.

Two frames with one number are taken for the same frame if their fingerprints agree. The fingerprint
is the 32-bit FNV-1a hash of what a frame says and who says it; the sequence number, the flags, the
checksum and the signature do not enter.
-/

namespace Mavlink

/-! ### Fingerprints -/

namespace Fingerprint

/-- The hash of nothing. -/
def basis : UInt32 := 0x811c9dc5

/-- The factor of each step. -/
def prime : UInt32 := 16777619

/-- Takes in one word. -/
def feed (hash word : UInt32) : UInt32 :=
  (hash ^^^ word) * prime

/-- The words of a frame that enter its fingerprint. -/
def words (f : Frame) : List UInt32 :=
  [UInt32.ofNat f.version.ordinal, f.systemId.toUInt32, f.componentId.toUInt32, f.messageId,
    UInt32.ofNat f.payload.length] ++ f.payload.map UInt8.toUInt32

end Fingerprint

/-- The fingerprint of a frame. -/
def Frame.fingerprint (f : Frame) : UInt32 :=
  (Fingerprint.words f).foldl Fingerprint.feed Fingerprint.basis

/-! ### Classification -/

/-- The last frame seen with a sequence number. -/
structure Sighting where
  sequence : UInt8
  fingerprint : UInt32
  streamId : String
  seenAt : Nat
  deriving DecidableEq, Repr

/-- The frame that the numbering of a system has reached. -/
structure Head where
  sequence : UInt8
  reachedAt : Nat
  deriving DecidableEq, Repr

/-- What the sequence number of a frame says about its arrival. -/
inductive Arrival
  /-- The first frame of its system. -/
  | first
  /-- A frame ahead of the head, with a number of frames lost between them. -/
  | ahead (lost : Nat)
  /-- A frame that was seen before. -/
  | duplicate
  /-- A frame that differs from the last one with its number, which came over a stream. -/
  | conflict (previousStream : String)
  /-- A frame overtaken by others. -/
  | late (back : Nat)
  /-- A frame far back, perhaps alarmingly, and perhaps after a restart behind a head. -/
  | backward (back : Nat) (alarming : Bool) (restartedFrom? : Option UInt8)
  deriving DecidableEq, Repr

namespace Arrival

/-- The greatest distance by which a frame is ahead. -/
def maxAhead : UInt8 := 127

/-- Whether a jump back from the head to a sequence number looks like a restart. -/
def isRestart (c : SequenceConf) (head : Head) (sequence : UInt8) (now : Nat) : Bool :=
  50 ≤ head.sequence && head.sequence ≤ 200 && sequence ≤ 10 &&
    olderThan now head.reachedAt c.multiSourceWindow

/-- The arrival of a frame behind the head. -/
def behind (c : SequenceConf) (head : Head) (sequence : UInt8) (now : Nat) : Arrival :=
  let back := head.sequence - sequence
  if back ≤ c.reorderDistance && seenWithin now head.reachedAt c.reorderTime then .late back.toNat
  else
    .backward back.toNat (c.suspiciousDistance ≤ back)
      (if isRestart c head sequence now then some head.sequence else none)

/-- The arrival of a frame relative to the head. -/
def relative (c : SequenceConf) (head : Head) (sequence : UInt8) (now : Nat) : Arrival :=
  let delta := sequence - head.sequence
  if delta = 0 then .duplicate
  else if delta ≤ maxAhead then .ahead (delta.toNat - 1)
  else behind c head sequence now

/-- Classifies a frame by the last frame with its sequence number and by the head. -/
def classify (c : SequenceConf) (last? : Option Sighting) (head? : Option Head)
    (sequence : UInt8) (fingerprint : UInt32) (now : Nat) : Arrival :=
  match last?.filter fun last => seenWithin now last.seenAt c.duplicateTime with
  | some last => if last.fingerprint = fingerprint then .duplicate else .conflict last.streamId
  | none =>
    match head? with
    | none => .first
    | some head => relative c head sequence now

/-- Whether the frame becomes the head. -/
def isAccepted : Arrival → Bool
  | first | ahead _ => true
  | _ => false

/-- What is to be reported about the arrival of a frame with the given sequence number. -/
def findings (sequence : UInt8) : Arrival → List Finding
  | first => []
  | ahead lost => if lost = 0 then [] else [.gap lost]
  | duplicate => [.duplicate sequence]
  | conflict previousStream => [.conflict sequence previousStream]
  | late back => [.reorder back]
  | backward back alarming restartedFrom? =>
    .suspiciousBackward back alarming ::
      (restartedFrom?.map fun head => Finding.resetSuspected head sequence).toList

end Arrival

end Mavlink
