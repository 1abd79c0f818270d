import Mavlink.Health.Monitor

/-!
# The shared monitor

Several users can feed one monitor. Each holds a handle with the configuration; the tracks are
common to all handles. Every call works on the track of one system only: it finds the track, or
makes one, works on it and puts it back, so that calls for different systems need not wait for each
other. A sweep visits the tracks one after the other.
-/

namespace Mavlink

/-- The tracks that all handles of a shared monitor work on. -/
structure SharedTracks where
  tracks : Slots Track
  deriving DecidableEq

/-- A handle of a shared monitor. -/
structure SharedMonitor where
  conf : MonitorConf
  deriving DecidableEq, Repr

namespace SharedTracks

/-- No tracks. -/
def empty : SharedTracks := ⟨∅⟩

/-- Works on the track of a system. If there is none, it is made first, or the call does nothing if
it may not make one. -/
def withTrack {α : Type} (s : SharedTracks) (systemId : UInt8) (create : Bool)
    (work : Track → α × Track) : Option α × SharedTracks :=
  match s.tracks.get systemId with
  | some track =>
    let (answer, track) := work track
    (some answer, ⟨s.tracks.set systemId (some track)⟩)
  | none =>
    if create then
      let (answer, track) := work (Track.new systemId)
      (some answer, ⟨s.tracks.set systemId (some track)⟩)
    else (none, s)

/-- The ids of the systems that have tracks, in ascending order. -/
def systemIds (s : SharedTracks) : List UInt8 :=
  Slots.indices.filter fun id => (s.tracks.get id).isSome

/-- The number of systems that are known. -/
def size (s : SharedTracks) : Nat :=
  s.systemIds.length

/-- Whether no system is known. -/
def isEmpty (s : SharedTracks) : Bool :=
  s.systemIds.isEmpty

end SharedTracks

namespace SharedMonitor

/-- A handle with a configuration. -/
def new (conf : MonitorConf) : SharedMonitor := ⟨conf⟩

/-- Another handle of the same monitor. -/
def clone (h : SharedMonitor) : SharedMonitor := ⟨h.conf⟩

/-- Takes in a valid frame that came over a stream. -/
def observe (h : SharedMonitor) (s : SharedTracks) (f : Frame) (streamId : String) (now : Nat) :
    List Detection × SharedTracks :=
  let (detections?, s) := s.withTrack f.systemId true fun t =>
    let (findings, t) := t.observe h.conf.sequence f streamId now
    (findings.map (Finding.report t.systemId streamId now), t)
  (detections?.getD [], s)

/-- Takes in a frame that may not be used and came over a stream. -/
def observeInvalid (_ : SharedMonitor) (s : SharedTracks) (systemId : UInt8) (streamId : String)
    (now : Nat) (reason : FailureReason) : List Detection × SharedTracks :=
  let (detections?, s) := s.withTrack systemId false fun t =>
    let (findings, t) := t.observeInvalid streamId now reason
    (findings.map (Finding.report t.systemId streamId now), t)
  (detections?.getD [], s)

/-- Sweeps the track of one system, and adds what was forgotten to a result. -/
def sweepOne (h : SharedMonitor) (now : Nat) (state : SweepResult × SharedTracks)
    (systemId : UInt8) : SweepResult × SharedTracks :=
  let (result, s) := state
  match s.tracks.get systemId with
  | none => (result, s)
  | some track =>
    let (removed, track) := track.sweep h.conf now
    let result := { result with removedSources := result.removedSources + removed }
    if track.isExpired h.conf.sweep now then
      ({ result with removedSystems := result.removedSystems + 1 }, ⟨s.tracks.set systemId none⟩)
    else (result, ⟨s.tracks.set systemId (some track)⟩)

/-- Forgets what has been silent too long, one system after the other. -/
def sweep (h : SharedMonitor) (s : SharedTracks) (now : Nat) : SweepResult × SharedTracks :=
  s.systemIds.foldl (h.sweepOne now) ({}, s)

/-- What is known about a system. -/
def snapshot? (_ : SharedMonitor) (s : SharedTracks) (systemId : UInt8) : Option Snapshot :=
  (s.withTrack systemId false fun t => (t.snapshot, t)).1

/-- What is known about all systems, in ascending order of their ids. -/
def snapshots (h : SharedMonitor) (s : SharedTracks) : List Snapshot :=
  s.systemIds.filterMap (h.snapshot? s)

end SharedMonitor

end Mavlink
