import Mavlink.Health.Arrival
import Mavlink.NameMap
import Mavlink.Slots

/-!
# Tracks

A track is what the monitor remembers of one system: the head of its numbering, the last frame with
each sequence number, the streams that its frames came over, and counts of what was reported.

One of the streams is the *primary* one: the first that was heard, until it has been silent for
longer than a window. Frames over other streams are reported while the primary one is active.
-/

namespace Mavlink

/-- A stream over which frames of a system came. -/
structure Source where
  streamId : String
  lastSeen : Nat
  packets : Nat
  invalid : Nat
  isPrimary : Bool
  primarySince? : Option Nat
  lastAccepted? : Option UInt8
  deriving DecidableEq, Repr

namespace Source

/-- A stream that is heard for the first time. -/
def new (streamId : String) (now : Nat) : Source where
  streamId := streamId
  lastSeen := now
  packets := 0
  invalid := 0
  isPrimary := false
  primarySince? := none
  lastAccepted? := none

/-- Whether the source is primary and was heard at most `window` ago. -/
def isActivePrimary (s : Source) (now window : Nat) : Bool :=
  s.isPrimary && seenWithin now s.lastSeen window

/-- The source without the mark of the primary one. -/
def demote (s : Source) : Source :=
  { s with isPrimary := false, primarySince? := none }

/-- The source with the mark of the primary one. -/
def promote (s : Source) (now : Nat) : Source :=
  { s with isPrimary := true, primarySince? := some now }

end Source

/-- How often each kind of finding was reported for a system, and how many frames were lost. -/
structure Counters where
  duplicates : Nat := 0
  gaps : Nat := 0
  lostPackets : Nat := 0
  reorders : Nat := 0
  suspiciousBackwards : Nat := 0
  resetsSuspected : Nat := 0
  invalidFrames : Nat := 0
  multiSourceActive : Nat := 0
  deriving DecidableEq, Repr

namespace Counters

/-- The counts after an arrival. Conflicts are not counted. -/
def arrive (c : Counters) : Arrival → Counters
  | .first => c
  | .ahead lost =>
    if lost = 0 then c
    else { c with gaps := c.gaps + 1, lostPackets := c.lostPackets + lost }
  | .duplicate => { c with duplicates := c.duplicates + 1 }
  | .conflict _ => c
  | .late _ => { c with reorders := c.reorders + 1 }
  | .backward _ _ restartedFrom? =>
    let c := { c with suspiciousBackwards := c.suspiciousBackwards + 1 }
    if restartedFrom?.isSome then { c with resetsSuspected := c.resetsSuspected + 1 } else c

/-- The counts after a frame over a stream while another one is primary. -/
def crossStream (c : Counters) : Counters :=
  { c with multiSourceActive := c.multiSourceActive + 1 }

/-- The counts after a frame that may not be used. -/
def reject (c : Counters) : Counters :=
  { c with invalidFrames := c.invalidFrames + 1 }

end Counters

/-- What is known about a system at one time. -/
structure Snapshot where
  systemId : UInt8
  isInitialized : Bool
  headSequence? : Option UInt8
  headReachedAt? : Option Nat
  lastActivity : Nat
  counters : Counters
  sources : List Source
  deriving DecidableEq, Repr

namespace Snapshot

/-- The source with the given stream. -/
def source? (s : Snapshot) (streamId : String) : Option Source :=
  s.sources.find? fun source => source.streamId = streamId

/-- The primary source. -/
def primary? (s : Snapshot) : Option Source :=
  s.sources.find? Source.isPrimary

end Snapshot

/-- What the monitor remembers of a system. -/
structure Track where
  systemId : UInt8
  head? : Option Head
  lastActivity : Nat
  ring : Slots Sighting
  sources : NameMap Source
  counters : Counters
  deriving DecidableEq

namespace Track

/-- The track of a system that has not been heard. -/
def new (systemId : UInt8) : Track where
  systemId := systemId
  head? := none
  lastActivity := 0
  ring := ∅
  sources := ∅
  counters := {}

/-- Notes that something came over a stream, and counts it in the stream's source. -/
def hear (t : Track) (streamId : String) (now : Nat) (count : Source → Source) : Track :=
  let source := (t.sources.get? streamId).getD (Source.new streamId now)
  { t with
    lastActivity := now
    sources := t.sources.insert streamId (count { source with lastSeen := now }) }

/-- Makes a frame that came over a stream the head. -/
def accept (t : Track) (sequence : UInt8) (streamId : String) (now : Nat) : Track :=
  { t with
    head? := some { sequence, reachedAt := now }
    sources := t.sources.modify streamId fun s => { s with lastAccepted? := some sequence } }

/-- Classifies and counts a frame, and moves the head if the frame is accepted. -/
def sequenceStep (c : SequenceConf) (t : Track) (f : Frame) (streamId : String) (now : Nat) :
    List Finding × Track :=
  let arrival :=
    Arrival.classify c (t.ring.get f.sequence) t.head? f.sequence f.fingerprint now
  let t := { t with counters := t.counters.arrive arrival }
  (arrival.findings f.sequence,
    if arrival.isAccepted then t.accept f.sequence streamId now else t)

/-- Remembers a frame as the last one with its sequence number. -/
def remember (t : Track) (f : Frame) (streamId : String) (now : Nat) : Track :=
  { t with
    ring := t.ring.set f.sequence <| some
      { sequence := f.sequence, fingerprint := f.fingerprint, streamId, seenAt := now } }

/-- The primary source that was heard at most `window` ago. -/
def activePrimary? (t : Track) (now window : Nat) : Option Source :=
  t.sources.values.find? fun s => s.isActivePrimary now window

/-- Makes a stream the primary one, and no other. -/
def elect (t : Track) (streamId : String) (now : Nat) : Track :=
  { t with
    sources := t.sources.map fun _ s =>
      if s.streamId = streamId then s.promote now else s.demote }

/-- Makes a stream the primary one if no primary one is active, and reports and counts it if
another one is. -/
def arbitrate (c : SequenceConf) (t : Track) (streamId : String) (now : Nat) :
    List Finding × Track :=
  match t.activePrimary? now c.multiSourceWindow with
  | none => ([], t.elect streamId now)
  | some primary =>
    if primary.streamId = streamId then ([], t)
    else ([.multiSource primary.streamId], { t with counters := t.counters.crossStream })

/-- Takes in a valid frame that came over a stream. -/
def observe (c : SequenceConf) (t : Track) (f : Frame) (streamId : String) (now : Nat) :
    List Finding × Track :=
  let t := t.hear streamId now fun s => { s with packets := s.packets + 1 }
  let (sequenceFindings, t) := t.sequenceStep c f streamId now
  let t := t.remember f streamId now
  let (sourceFindings, t) := t.arbitrate c streamId now
  (sequenceFindings ++ sourceFindings, t)

/-- Takes in a frame that may not be used and came over a stream. -/
def observeInvalid (t : Track) (streamId : String) (now : Nat) (reason : FailureReason) :
    List Finding × Track :=
  let t := t.hear streamId now fun s => { s with invalid := s.invalid + 1 }
  ([.frameInvalid reason], { t with counters := t.counters.reject })

/-- Forgets the sources that have been silent too long, and the mark of a primary one that is not
active any more. The first component is the number of sources forgotten. -/
def sweep (c : MonitorConf) (t : Track) (now : Nat) : Nat × Track :=
  let kept := t.sources.filter fun s => !olderThan now s.lastSeen c.sweep.sourceLifetime
  let hasPrimary := kept.values.any fun s => s.isActivePrimary now c.sequence.multiSourceWindow
  (t.sources.size - kept.size,
    { t with sources := if hasPrimary then kept else kept.map fun _ s => s.demote })

/-- Whether the system has been silent so long that it is forgotten. -/
def isExpired (c : SweepConf) (t : Track) (now : Nat) : Bool :=
  olderThan now t.lastActivity c.systemLifetime

/-- What is known about the system. -/
def snapshot (t : Track) : Snapshot where
  systemId := t.systemId
  isInitialized := t.head?.isSome
  headSequence? := t.head?.map Head.sequence
  headReachedAt? := t.head?.map Head.reachedAt
  lastActivity := t.lastActivity
  counters := t.counters
  sources := t.sources.values

end Track

end Mavlink
