import Mavlink.Json.Frame
import Mavlink.Json.Payload
import Mavlink.Pipeline

/-!
# Configurations and reports as JSON

The configuration of the monitor, what it reports, and what the pipeline hands out, as JSON records.
A time is a record of whole seconds and of nanoseconds; nanoseconds beyond a second carry over when
it is read. Unlike other records it has no members but its fields.
-/

namespace Mavlink

namespace JsonTime

/-- The number of nanoseconds in a second. -/
def nanosPerSecond : Nat := 1000000000

/-- The time as JSON. -/
def toJson (t : Nat) : Json :=
  .record [("secs", .ofNat (t / nanosPerSecond)), ("nanos", .ofNat (t % nanosPerSecond))]

/-- The time that a JSON value denotes; its seconds have 64 bits. -/
def ofJson? (j : Json) : Option Nat := do
  let fields := ["secs", "nanos"]
  let r ← JsonRecord.ofJson? fields j
  let secs ← r.get? "secs" Json.toCount?
  let nanos ← r.get? "nanos" (Json.toNat? UInt32.size)
  if r.hasOnly fields && secs + nanos / nanosPerSecond < UInt64.size then
    return secs * nanosPerSecond + nanos
  else none

end JsonTime

/-! ### Configurations -/

namespace SequenceConf

/-- The configuration as JSON. -/
def toJson (c : SequenceConf) : Json :=
  .record
    [("reorder_distance_window", .ofNat c.reorderDistance.toNat),
      ("reorder_time_window", JsonTime.toJson c.reorderTime),
      ("duplicate_time_window", JsonTime.toJson c.duplicateTime),
      ("suspicious_backward_distance", .ofNat c.suspiciousDistance.toNat),
      ("multi_source_active_window", JsonTime.toJson c.multiSourceWindow)]

/-- The configuration that a JSON value denotes. -/
def ofJson? (j : Json) : Option SequenceConf := do
  let r ← JsonRecord.ofJson?
    ["reorder_distance_window", "reorder_time_window", "duplicate_time_window",
      "suspicious_backward_distance", "multi_source_active_window"] j
  return { reorderDistance := ← r.get? "reorder_distance_window" Json.toUInt8?
           reorderTime := ← r.get? "reorder_time_window" JsonTime.ofJson?
           duplicateTime := ← r.get? "duplicate_time_window" JsonTime.ofJson?
           suspiciousDistance := ← r.get? "suspicious_backward_distance" Json.toUInt8?
           multiSourceWindow := ← r.get? "multi_source_active_window" JsonTime.ofJson? }

end SequenceConf

namespace SweepConf

/-- The configuration as JSON. -/
def toJson (c : SweepConf) : Json :=
  .record
    [("system_ttl", JsonTime.toJson c.systemLifetime),
      ("source_ttl", JsonTime.toJson c.sourceLifetime)]

/-- The configuration that a JSON value denotes. -/
def ofJson? (j : Json) : Option SweepConf := do
  let r ← JsonRecord.ofJson? ["system_ttl", "source_ttl"] j
  return { systemLifetime := ← r.get? "system_ttl" JsonTime.ofJson?
           sourceLifetime := ← r.get? "source_ttl" JsonTime.ofJson? }

end SweepConf

namespace MonitorConf

/-- The configuration as JSON. -/
def toJson (c : MonitorConf) : Json :=
  .record [("sequence", c.sequence.toJson), ("sweep", c.sweep.toJson)]

/-- The configuration that a JSON value denotes. -/
def ofJson? (j : Json) : Option MonitorConf := do
  let r ← JsonRecord.ofJson? ["sequence", "sweep"] j
  return { sequence := ← r.get? "sequence" SequenceConf.ofJson?
           sweep := ← r.get? "sweep" SweepConf.ofJson? }

end MonitorConf

/-! ### Detections -/

namespace Severity

/-- The severity as JSON. -/
def toJson (s : Severity) : Json :=
  .ofString s.name

/-- The severity that a JSON value denotes. -/
def ofJson? : Json → Option Severity :=
  Json.toCase? [info, warn, alert] name

end Severity

namespace DetectionKind

/-- All kinds of detections. -/
def all : List DetectionKind :=
  [duplicate, gap, reorder, conflict, suspiciousBackward, resetSuspected, multiSource,
    frameInvalid]

/-- The name of the kind in JSON. -/
def jsonName : DetectionKind → String
  | duplicate => "Duplicate"
  | gap => "Gap"
  | reorder => "Reorder"
  | conflict => "SameSequenceDifferentFingerprint"
  | suspiciousBackward => "SuspiciousBackward"
  | resetSuspected => "ResetSuspected"
  | multiSource => "MultiSourceActive"
  | frameInvalid => "FrameInvalid"

/-- The kind as JSON. -/
def toJson (k : DetectionKind) : Json :=
  .ofString k.jsonName

/-- The kind that a JSON value denotes. -/
def ofJson? : Json → Option DetectionKind :=
  Json.toCase? all jsonName

end DetectionKind

namespace FailureReason

/-- The reason as JSON; it has the name of the outcome that it explains. -/
def toJson : FailureReason → Json
  | crcFailed => .ofString Outcome.crcFailed.name
  | signatureFailed => .ofString Outcome.signatureFailed.name
  | crcAndSignatureFailed => .ofString Outcome.crcAndSignatureFailed.name
  | malformed => .ofString Outcome.malformed.name
  | unknown => .ofString Outcome.unknown.name

/-- The reason that a JSON value denotes. -/
def ofJson? (j : Json) : Option FailureReason :=
  (Json.toCase? Outcome.all Outcome.name j).bind ofOutcome?

end FailureReason

namespace Detection

/-- The detection as JSON. -/
def toJson (d : Detection) : Json :=
  .record
    [("system_id", .ofNat d.systemId.toNat), ("stream_id", .ofString d.streamId),
      ("at", JsonTime.toJson d.time), ("kind", d.kind.toJson), ("severity", d.severity.toJson),
      ("details", .ofString d.details)]

/-- The detection that a JSON value denotes. -/
def ofJson? (j : Json) : Option Detection := do
  let r ← JsonRecord.ofJson? ["system_id", "stream_id", "at", "kind", "severity", "details"] j
  return { systemId := ← r.get? "system_id" Json.toUInt8?
           streamId := ← r.get? "stream_id" Json.toText?
           time := ← r.get? "at" JsonTime.ofJson?
           kind := ← r.get? "kind" DetectionKind.ofJson?
           severity := ← r.get? "severity" Severity.ofJson?
           details := ← r.get? "details" Json.toText? }

end Detection

/-! ### Snapshots and sweeps -/

namespace Counters

/-- The counts as JSON. -/
def toJson (c : Counters) : Json :=
  .record
    [("duplicates", .ofNat c.duplicates), ("gaps", .ofNat c.gaps),
      ("lost_packets", .ofNat c.lostPackets), ("reorders", .ofNat c.reorders),
      ("suspicious_backwards", .ofNat c.suspiciousBackwards),
      ("resets_suspected", .ofNat c.resetsSuspected), ("invalid_frames", .ofNat c.invalidFrames),
      ("multi_source_active", .ofNat c.multiSourceActive)]

/-- The counts that a JSON value denotes. -/
def ofJson? (j : Json) : Option Counters := do
  let r ← JsonRecord.ofJson?
    ["duplicates", "gaps", "lost_packets", "reorders", "suspicious_backwards", "resets_suspected",
      "invalid_frames", "multi_source_active"] j
  return { duplicates := ← r.get? "duplicates" Json.toCount?
           gaps := ← r.get? "gaps" Json.toCount?
           lostPackets := ← r.get? "lost_packets" Json.toCount?
           reorders := ← r.get? "reorders" Json.toCount?
           suspiciousBackwards := ← r.get? "suspicious_backwards" Json.toCount?
           resetsSuspected := ← r.get? "resets_suspected" Json.toCount?
           invalidFrames := ← r.get? "invalid_frames" Json.toCount?
           multiSourceActive := ← r.get? "multi_source_active" Json.toCount? }

end Counters

namespace Source

/-- The source as JSON. -/
def toJson (s : Source) : Json :=
  .record
    [("stream_id", .ofString s.streamId), ("last_seen", JsonTime.toJson s.lastSeen),
      ("packet_count", .ofNat s.packets), ("invalid_count", .ofNat s.invalid),
      ("primary", .bool s.isPrimary), ("primary_since", .ofOption JsonTime.toJson s.primarySince?),
      ("last_accepted_sequence", .ofOption (fun n => .ofNat n.toNat) s.lastAccepted?)]

/-- The source that a JSON value denotes. -/
def ofJson? (j : Json) : Option Source := do
  let r ← JsonRecord.ofJson?
    ["stream_id", "last_seen", "packet_count", "invalid_count", "primary", "primary_since",
      "last_accepted_sequence"] j
  return { streamId := ← r.get? "stream_id" Json.toText?
           lastSeen := ← r.get? "last_seen" JsonTime.ofJson?
           packets := ← r.get? "packet_count" Json.toCount?
           invalid := ← r.get? "invalid_count" Json.toCount?
           isPrimary := ← r.get? "primary" Json.toBool?
           primarySince? := ← r.getOption? "primary_since" JsonTime.ofJson?
           lastAccepted? := ← r.getOption? "last_accepted_sequence" Json.toUInt8? }

end Source

namespace Snapshot

/-- The snapshot as JSON. -/
def toJson (s : Snapshot) : Json :=
  .record
    [("system_id", .ofNat s.systemId.toNat), ("initialized", .bool s.isInitialized),
      ("head_sequence", .ofOption (fun n => .ofNat n.toNat) s.headSequence?),
      ("head_at", .ofOption JsonTime.toJson s.headReachedAt?),
      ("last_activity", JsonTime.toJson s.lastActivity), ("stats", s.counters.toJson),
      ("sources", .ofList Source.toJson s.sources)]

/-- The snapshot that a JSON value denotes. It need not be the snapshot of any track. -/
def ofJson? (j : Json) : Option Snapshot := do
  let r ← JsonRecord.ofJson?
    ["system_id", "initialized", "head_sequence", "head_at", "last_activity", "stats", "sources"] j
  return { systemId := ← r.get? "system_id" Json.toUInt8?
           isInitialized := ← r.get? "initialized" Json.toBool?
           headSequence? := ← r.getOption? "head_sequence" Json.toUInt8?
           headReachedAt? := ← r.getOption? "head_at" JsonTime.ofJson?
           lastActivity := ← r.get? "last_activity" JsonTime.ofJson?
           counters := ← r.get? "stats" Counters.ofJson?
           sources := ← r.get? "sources" (Json.toList? Source.ofJson?) }

end Snapshot

namespace SweepResult

/-- The result as JSON. -/
def toJson (s : SweepResult) : Json :=
  .record
    [("removed_systems", .ofNat s.removedSystems), ("removed_sources", .ofNat s.removedSources)]

/-- The result that a JSON value denotes. -/
def ofJson? (j : Json) : Option SweepResult := do
  let r ← JsonRecord.ofJson? ["removed_systems", "removed_sources"] j
  return { removedSystems := ← r.get? "removed_systems" Json.toCount?
           removedSources := ← r.get? "removed_sources" Json.toCount? }

end SweepResult

/-! ### Processed frames -/

namespace Processed

/-- The processed frame as JSON. -/
def toJson (p : Processed) : Json :=
  .record
    [("name", .ofOption Json.ofString p.name?), ("frame", p.frame.toJson),
      ("fields", Fields.toJson p.fields), ("valid", .bool p.isValid),
      ("detections", .ofList Detection.toJson p.detections)]

/-- The processed frame that a JSON value denotes. -/
def ofJson? (j : Json) : Option Processed := do
  let r ← JsonRecord.ofJson? ["name", "frame", "fields", "valid", "detections"] j
  return { name? := ← r.getOption? "name" Json.toText?
           frame := ← r.get? "frame" Frame.ofJson?
           fields := ← r.get? "fields" Fields.ofJson?
           isValid := ← r.get? "valid" Json.toBool?
           detections := ← r.get? "detections" (Json.toList? Detection.ofJson?) }

end Processed

end Mavlink
