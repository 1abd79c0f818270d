import Mavlink.Health.Track

/-!
# The stream monitor

The monitor keeps a track for every system that has sent a valid frame and has not been forgotten
since. Frames that may not be used count for systems that are known, and are ignored for others.
-/

namespace Mavlink

/-- What a sweep has forgotten. -/
structure SweepResult where
  removedSystems : Nat := 0
  removedSources : Nat := 0
  deriving DecidableEq, Repr

/-- A monitor: its configuration and the tracks by system id. -/
structure Monitor where
  conf : MonitorConf
  tracks : Slots Track
  deriving DecidableEq

namespace Monitor

/-- A monitor that has heard nothing. -/
def new (conf : MonitorConf) : Monitor :=
  ⟨conf, ∅⟩

/-- Takes in a valid frame that came over a stream. -/
def observe (m : Monitor) (f : Frame) (streamId : String) (now : Nat) :
    List Detection × Monitor :=
  let track := (m.tracks.get f.systemId).getD (Track.new f.systemId)
  let (findings, track) := track.observe m.conf.sequence f streamId now
  (findings.map (Finding.report track.systemId streamId now),
    { m with tracks := m.tracks.set f.systemId (some track) })

/-- Takes in a frame that may not be used and came over a stream. -/
def observeInvalid (m : Monitor) (systemId : UInt8) (streamId : String) (now : Nat)
    (reason : FailureReason) : List Detection × Monitor :=
  match m.tracks.get systemId with
  | none => ([], m)
  | some track =>
    let (findings, track) := track.observeInvalid streamId now reason
    (findings.map (Finding.report track.systemId streamId now),
      { m with tracks := m.tracks.set systemId (some track) })

/-- Forgets what has been silent too long. The sources that are counted are those of all systems,
also of those that are forgotten. -/
def sweep (m : Monitor) (now : Nat) : SweepResult × Monitor :=
  let swept := m.tracks.entries.map fun t => t.sweep m.conf now
  ({ removedSystems := m.tracks.entries.countP fun t => t.isExpired m.conf.sweep now
     removedSources := swept.foldr (fun s count => s.1 + count) 0 },
    { m with
      tracks := m.tracks.filterMap fun t =>
        if t.isExpired m.conf.sweep now then none else some (t.sweep m.conf now).2 })

/-- What is known about a system. -/
def snapshot? (m : Monitor) (systemId : UInt8) : Option Snapshot :=
  (m.tracks.get systemId).map Track.snapshot

/-- What is known about all systems, in ascending order of their ids. -/
def snapshots (m : Monitor) : List Snapshot :=
  m.tracks.entries.map Track.snapshot

/-- The number of systems that are known. -/
def size (m : Monitor) : Nat :=
  m.tracks.size

/-- Whether no system is known. -/
def isEmpty (m : Monitor) : Bool :=
  m.size = 0

end Monitor

end Mavlink
