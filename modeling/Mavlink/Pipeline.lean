import Mavlink.Health.Monitor
import Mavlink.Link.Message

/-!
# The telemetry pipeline

The complete path of received data: the bytes of a stream go in, and frames with the fields of
their payloads and the detections of the monitor come out. Only frames that may be used are looked
into; of the others the monitor learns the reason.
-/

namespace Mavlink

/-- A frame that has passed through the pipeline. -/
structure Processed where
  name? : Option String
  frame : Frame
  fields : Fields
  isValid : Bool
  detections : List Detection
  deriving DecidableEq

/-- A link with a monitor of the systems that are heard over it. -/
structure Pipeline where
  link : Link
  monitor : Monitor

namespace Pipeline

/-- A pipeline that has received nothing. -/
def new (link : Link) (conf : MonitorConf) : Pipeline :=
  ⟨link, Monitor.new conf⟩

/-- Passes a frame that came over a stream to the monitor and, if it may be used, looks into its
payload. -/
def process (p : Pipeline) (streamId : String) (f : Frame) (now : Nat) :
    Except Error Processed × Pipeline :=
  let name? := p.link.messageName? f.messageId
  match FailureReason.ofOutcome? f.outcome with
  | none =>
    match p.link.fieldsOf f with
    | .error e => (.error (.payload e), p)
    | .ok fields =>
      let (detections, monitor) := p.monitor.observe f streamId now
      (.ok { name?, frame := f, fields, isValid := true, detections }, { p with monitor })
  | some reason =>
    let (detections, monitor) := p.monitor.observeInvalid f.systemId streamId now reason
    (.ok { name?, frame := f, fields := ∅, isValid := false, detections }, { p with monitor })

/-- What a step of the pipeline leaves: its answer, the bytes that are kept, and the pipeline. -/
structure Step where
  answer : Except Error (Option Processed)
  buffer : Bytes
  pipeline : Pipeline

/-- Processes the next frame in the bytes of a stream, if one has arrived. -/
def unpack (p : Pipeline) (streamId : String) (buffer : Bytes) (now : Nat) : Step :=
  match p.link.scan buffer with
  | (none, buffer) => { answer := .ok none, buffer, pipeline := p }
  | (some frame, buffer) =>
    let (answer, pipeline) := p.process streamId frame now
    { answer := answer.map some, buffer, pipeline }

/-- Forgets what has been silent too long. -/
def sweep (p : Pipeline) (now : Nat) : SweepResult × Pipeline :=
  let (result, monitor) := p.monitor.sweep now
  (result, { p with monitor })

end Pipeline

end Mavlink
