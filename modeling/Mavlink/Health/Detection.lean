import Mavlink.Frame.Basic
import Mavlink.Health.Conf

/-!
# Detections

What the monitor reports. A `Finding` says what was noticed and carries its figures; a `Detection`
adds where and when, and turns the figures into a short text.
-/

namespace Mavlink

/-- How serious a detection is. -/
inductive Severity
  | info
  | warn
  | alert
  deriving DecidableEq, Repr

/-- What the severity is called. -/
def Severity.name : Severity → String
  | info => "Info"
  | warn => "Warn"
  | alert => "Alert"

/-- The kinds of detections. -/
inductive DetectionKind
  | duplicate
  | gap
  | reorder
  | conflict
  | suspiciousBackward
  | resetSuspected
  | multiSource
  | frameInvalid
  deriving DecidableEq, Repr

/-- The name by which a kind of detections is reported. -/
def DetectionKind.name : DetectionKind → String
  | duplicate => "SEQ_DUPLICATE"
  | gap => "SEQ_GAP"
  | reorder => "SEQ_REORDER"
  | conflict => "SEQ_SAME_SEQ_DIFFERENT_FINGERPRINT"
  | suspiciousBackward => "SEQ_SUSPICIOUS_BACKWARDS"
  | resetSuspected => "SEQ_RESET_SUSPECTED"
  | multiSource => "SYSTEM_MULTI_SOURCE_ACTIVE"
  | frameInvalid => "FRAME_INVALID"

/-- Why a frame may not be used. -/
inductive FailureReason
  | crcFailed
  | signatureFailed
  | crcAndSignatureFailed
  | malformed
  | unknown
  deriving DecidableEq, Repr

namespace FailureReason

/-- The name by which the reason is reported. -/
def name : FailureReason → String
  | crcFailed => "CRC_FAILED"
  | signatureFailed => "SIGNATURE_FAILED"
  | crcAndSignatureFailed => "CRC_AND_SIGNATURE_FAILED"
  | malformed => "MALFORMED"
  | unknown => "UNKNOWN"

/-- The reason why a frame with the given outcome may not be used, if it may not. -/
def ofOutcome? : Outcome → Option FailureReason
  | .ok | .unsigned => none
  | .crcFailed => some crcFailed
  | .signatureFailed => some signatureFailed
  | .crcAndSignatureFailed => some crcAndSignatureFailed
  | .malformed => some malformed
  | .unknown => some unknown

/-- There is a reason exactly for the frames that may not be used. -/
theorem ofOutcome?_eq_none_iff {o : Outcome} : ofOutcome? o = none ↔ o.isValid = true := by
  cases o <;> simp [ofOutcome?, Outcome.isValid]

end FailureReason

/-- A report about a system. -/
structure Detection where
  systemId : UInt8
  streamId : String
  time : Nat
  kind : DetectionKind
  severity : Severity
  details : String
  deriving DecidableEq, Repr

/-- One line about the detection. -/
def Detection.display (d : Detection) : String :=
  s!"[{d.severity.name}] {d.kind.name} system={d.systemId} stream={d.streamId} {d.details}"

/-- What was noticed about a frame. -/
inductive Finding
  | duplicate (sequence : UInt8)
  | gap (lost : Nat)
  | reorder (back : Nat)
  | conflict (sequence : UInt8) (previousStream : String)
  | suspiciousBackward (back : Nat) (alarming : Bool)
  | resetSuspected (head sequence : UInt8)
  | multiSource (primary : String)
  | frameInvalid (reason : FailureReason)
  deriving DecidableEq, Repr

namespace Finding

/-- The kind of the finding. -/
def kind : Finding → DetectionKind
  | duplicate _ => .duplicate
  | gap _ => .gap
  | reorder _ => .reorder
  | conflict _ _ => .conflict
  | suspiciousBackward _ _ => .suspiciousBackward
  | resetSuspected _ _ => .resetSuspected
  | multiSource _ => .multiSource
  | frameInvalid _ => .frameInvalid

/-- How serious the finding is. -/
def severity : Finding → Severity
  | duplicate _ => .info
  | gap _ => .warn
  | reorder _ => .info
  | conflict _ _ => .alert
  | suspiciousBackward _ alarming => if alarming then .alert else .warn
  | resetSuspected _ _ => .warn
  | multiSource _ => .warn
  | frameInvalid _ => .warn

/-- The figures of the finding as text. -/
def details : Finding → String
  | duplicate sequence => s!"seq={sequence}"
  | gap lost => s!"lost={lost}"
  | reorder back => s!"back={back}"
  | conflict sequence previousStream => s!"seq={sequence} previousStream={previousStream}"
  | suspiciousBackward back _ => s!"back={back}"
  | resetSuspected head sequence => s!"head={head} seq={sequence}"
  | multiSource primary => s!"primary={primary}"
  | frameInvalid reason => reason.name

/-- The report of the finding about a system on a stream at a time. -/
def report (systemId : UInt8) (streamId : String) (time : Nat) (f : Finding) : Detection where
  systemId := systemId
  streamId := streamId
  time := time
  kind := f.kind
  severity := f.severity
  details := f.details

end Finding

end Mavlink
