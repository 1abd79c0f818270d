import Mavlink.Dialect.Sample
import Mavlink.Frame.Draft
import Mavlink.Health.SharedMonitor
import Mavlink.Link.Message
import Mavlink.Link.Receive

/-!
# Workloads

Two loads for measuring throughput, with the figures that they are expected to yield. The first is
a stream of status texts with noise between them that is read in pieces; the second is a number of
systems that send frames to a shared monitor.
-/

namespace Mavlink.Workload

/-! ### Status texts over a noisy link -/

/-- The fields of the status text with the given number. -/
def statusFields (i : Nat) : Fields :=
  NameMap.ofList
    [("severity", .scalar (.text "MAV_SEVERITY_INFO")), ("text", .scalar (.text s!"status #{i}"))]

/-- The frame with the given number, without its message. -/
def statusDraft (i : Nat) : Draft :=
  { version? := some .v2, sequence := UInt8.ofNat i, systemId := 1, componentId := 1 }

/-- What lies between two frames on the link. -/
def noise : Bytes := [0x00, 0x55, 0xaa]

/-- The bytes of the status text with the given number, and the noise after it. -/
def statusBytes (l : Link) (i : Nat) : Except Error Bytes := do
  let frame ← (statusDraft i).build.mapError .frame
  let frame ← (l.fill frame Sample.statusText.id (statusFields i)).mapError .payload
  let packed ← (l.pack frame).mapError .frame
  return packed.bytes ++ noise

/-- The stream of a number of status texts. -/
def statusStream (l : Link) (count : Nat) : Except Error Bytes :=
  ((List.range count).mapM (statusBytes l)).map List.flatten

/-- How many frames a reader finds whose fields can be read, if the stream arrives in pieces of
the given size. -/
def readableFrames (l : Link) (count pieceSize : Nat) : Except Error Nat :=
  (statusStream l count).map fun stream =>
    let frames := ((Reader.ofLink l).pushAll (Bytes.chunks pieceSize stream)).1.flatten
    frames.countP fun f => (l.fieldsOf f).isOk

/-! ### Systems that share a monitor -/

/-- The frame with the given number that a system sends. -/
def counterDraft (systemId : UInt8) (i : Nat) : Draft :=
  { version? := some .v2, sequence := UInt8.ofNat i, systemId, componentId := 1,
    payload := Bytes.littleEndian 4 i }

/-- The time between two frames of a system. -/
def interval : Nat := 10000000

/-- Feeds a frame of a system to a shared monitor and adds to the number of detections. -/
def feed (h : SharedMonitor) (systemId : UInt8) (state : Nat × SharedTracks) (i : Nat) :
    Except FrameError (Nat × SharedTracks) := do
  let frame ← (counterDraft systemId i).build
  let (detections, tracks) := h.observe state.2 frame "udp" (i * interval)
  return (state.1 + detections.length, tracks)

/-- How many detections a shared monitor reports if each of a number of systems sends a number of
frames. -/
def detections (systems frames : Nat) : Except FrameError Nat := do
  let h := SharedMonitor.new {}
  let (count, _) ← (List.range systems).foldlM
    (fun state id => (List.range frames).foldlM (feed h (UInt8.ofNat id)) state)
    (0, SharedTracks.empty)
  return count

end Mavlink.Workload
