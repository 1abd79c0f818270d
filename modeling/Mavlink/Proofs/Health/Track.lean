import Mavlink.Health.Track

/-!
# Runs of a track

From the first frame of a system until the system is forgotten, its track takes in frames that may
be used, frames that may not, and sweeps, in any order and at any times. Only the first of these
touch what the track remembers of the numbering: the ring and the head.

## Main results

* `Track.arbitrate_cases`, `Track.numbered_eq`: all that the two halves of taking in a frame can do.
* `Track.findings_observe`, `Track.ring_observe`, `Track.head?_observe`: what a frame does.
* `Track.ring_step`, `Track.head?_step`: the other events leave the numbering alone.
-/

namespace Mavlink

namespace Track

/-! ### Events -/

/-- What can happen to a track. -/
inductive Event
  | frame (f : Frame) (streamId : String) (now : Nat)
  | invalid (streamId : String) (now : Nat) (reason : FailureReason)
  | sweep (now : Nat)

/-- What is noticed about an event, and the track after it. -/
def step (c : MonitorConf) (t : Track) : Event → List Finding × Track
  | .frame f streamId now => t.observe c.sequence f streamId now
  | .invalid streamId now reason => t.observeInvalid streamId now reason
  | .sweep now => ([], (t.sweep c now).2)

/-- The track after several events. -/
def run (c : MonitorConf) (t : Track) (events : List Event) : Track :=
  events.foldl (fun t e => (t.step c e).2) t

/-- A run begins with its first event. -/
theorem run_cons (c : MonitorConf) (t : Track) (e : Event) (events : List Event) :
    t.run c (e :: events) = (t.step c e).2.run c events :=
  rfl

/-- A run goes on where an earlier one has ended. -/
theorem run_append (c : MonitorConf) (t : Track) (events events' : List Event) :
    t.run c (events ++ events') = (t.run c events).run c events' :=
  List.foldl_append

/-- The events of a run, each with the track that it comes to. -/
def trace (c : MonitorConf) (t : Track) : List Event → List (Track × Event)
  | [] => []
  | e :: events => (t, e) :: trace c (t.step c e).2 events

/-- The detections that an event yields. -/
def detect (c : MonitorConf) (t : Track) (e : Event) : List Detection :=
  match e with
  | .frame _ streamId now | .invalid streamId now _ =>
    (t.step c e).1.map (Finding.report t.systemId streamId now)
  | .sweep _ => []

/-- The detections that a run yields. -/
def detections (c : MonitorConf) (t : Track) (events : List Event) : List Detection :=
  (t.trace c events).flatMap fun (t, e) => t.detect c e

/-! ### Valid frames -/

/-- What the sequence number of a frame says about its arrival at a track. -/
def arrival (c : SequenceConf) (t : Track) (f : Frame) (now : Nat) : Arrival :=
  Arrival.classify c (t.ring.get f.sequence) t.head? f.sequence f.fingerprint now

/-- The first frame of a system is classified as such. -/
theorem arrival_new (c : SequenceConf) (systemId : UInt8) (f : Frame) (now : Nat) :
    (new systemId).arrival c f now = .first := by
  have hring : (new systemId).ring.get f.sequence = none := Slots.get_empty f.sequence
  rw [arrival, hring]
  rfl

section Observe

variable (c : SequenceConf) (t : Track) (f : Frame) (streamId : String) (now : Nat)

/-- **What arbitration can do**: the stream becomes primary, because no primary one is active; or it
is the active primary one, and nothing happens; or another one is, which is reported and counted. -/
theorem arbitrate_cases :
    (t.activePrimary? now c.multiSourceWindow = none ∧
      t.arbitrate c streamId now = ([], t.elect streamId now)) ∨
    (∃ primary, t.activePrimary? now c.multiSourceWindow = some primary ∧
      primary.streamId = streamId ∧ t.arbitrate c streamId now = ([], t)) ∨
    (∃ primary, t.activePrimary? now c.multiSourceWindow = some primary ∧
      primary.streamId ≠ streamId ∧ t.arbitrate c streamId now =
        ([.multiSource primary.streamId], { t with counters := t.counters.crossStream })) := by
  rw [arbitrate]
  cases hprimary : t.activePrimary? now c.multiSourceWindow with
  | none => exact .inl ⟨rfl, rfl⟩
  | some primary =>
      by_cases hsame : primary.streamId = streamId
      · exact .inr (.inl ⟨primary, rfl, hsame, if_pos hsame⟩)
      · exact .inr (.inr ⟨primary, rfl, hsame, if_neg hsame⟩)

/-- Arbitration finds at most one thing, a primary stream other than that of the frame. -/
theorem findings_arbitrate :
    ∃ primary? : Option String,
      (t.arbitrate c streamId now).1 = primary?.toList.map .multiSource := by
  obtain ⟨-, h⟩ | ⟨primary, -, -, h⟩ | ⟨primary, -, -, h⟩ := arbitrate_cases c t streamId now
  · exact ⟨none, congrArg Prod.fst h⟩
  · exact ⟨none, congrArg Prod.fst h⟩
  · exact ⟨some primary.streamId, congrArg Prod.fst h⟩

/-- Arbitration touches the sources and the counters only. -/
theorem exists_arbitrate_eq : ∃ sources counters,
    (t.arbitrate c streamId now).2 = { t with sources := sources, counters := counters } := by
  obtain ⟨-, h⟩ | ⟨primary, -, -, h⟩ | ⟨primary, -, -, h⟩ := arbitrate_cases c t streamId now
  · exact ⟨(t.elect streamId now).sources, t.counters, congrArg Prod.snd h⟩
  · exact ⟨t.sources, t.counters, congrArg Prod.snd h⟩
  · exact ⟨t.sources, t.counters.crossStream, congrArg Prod.snd h⟩

/-- Arbitration leaves the system of a track alone. -/
theorem systemId_arbitrate : (t.arbitrate c streamId now).2.systemId = t.systemId := by
  obtain ⟨sources, counters, h⟩ := exists_arbitrate_eq c t streamId now
  rw [h]

/-- Arbitration leaves the ring alone. -/
theorem ring_arbitrate : (t.arbitrate c streamId now).2.ring = t.ring := by
  obtain ⟨sources, counters, h⟩ := exists_arbitrate_eq c t streamId now
  rw [h]

/-- Arbitration leaves the head alone. -/
theorem head?_arbitrate : (t.arbitrate c streamId now).2.head? = t.head? := by
  obtain ⟨sources, counters, h⟩ := exists_arbitrate_eq c t streamId now
  rw [h]

/-- The track after a frame has been judged by its sequence number and remembered, and before its
stream is looked at. -/
def numbered : Track :=
  (((t.hear streamId now fun s => { s with packets := s.packets + 1 }).sequenceStep c f streamId
    now).2).remember f streamId now

/-- **What is done before the stream is looked at**: the stream is heard, the head moves if the
frame is accepted, the frame is remembered, and its arrival is counted. -/
theorem numbered_eq :
    t.numbered c f streamId now =
      let heard := t.hear streamId now fun s => { s with packets := s.packets + 1 }
      let moved := if (t.arrival c f now).isAccepted then heard.accept f.sequence streamId now
        else heard
      { moved with
        ring := t.ring.set f.sequence (some ⟨f.sequence, f.fingerprint, streamId, now⟩)
        counters := t.counters.arrive (t.arrival c f now) } := by
  have harrival : t.arrival c f now =
      (t.hear streamId now fun s => { s with packets := s.packets + 1 }).arrival c f now := rfl
  rw [harrival, arrival]
  simp only [numbered, sequenceStep, remember]
  split <;> rfl

/-- Numbering a frame leaves the system of a track alone. -/
theorem systemId_numbered : (t.numbered c f streamId now).systemId = t.systemId := by
  rw [numbered_eq]
  dsimp only
  split <;> rfl

/-- Numbering a frame makes it the head if it is accepted. -/
theorem head?_numbered :
    (t.numbered c f streamId now).head? =
      if (t.arrival c f now).isAccepted then some ⟨f.sequence, now⟩ else t.head? := by
  rw [numbered_eq]
  dsimp only
  split <;> rfl

/-- Numbering a frame hears its stream, and notes its number there if it is accepted. -/
theorem sources_numbered :
    (t.numbered c f streamId now).sources =
      let heard := t.hear streamId now fun s => { s with packets := s.packets + 1 }
      if (t.arrival c f now).isAccepted then (heard.accept f.sequence streamId now).sources
      else heard.sources := by
  rw [numbered_eq]
  dsimp only
  split <;> rfl

/-- **What is noticed about a frame**: what its sequence number says, and then perhaps that another
stream is the primary one. -/
theorem findings_observe :
    ∃ primary? : Option String, (t.observe c f streamId now).1 =
      (t.arrival c f now).findings f.sequence ++ primary?.toList.map .multiSource := by
  obtain ⟨primary?, hprimary⟩ := findings_arbitrate c (t.numbered c f streamId now) streamId now
  exact ⟨primary?, congrArg ((t.arrival c f now).findings f.sequence ++ ·) hprimary⟩

/-- **Every frame is remembered** as the last one with its sequence number. -/
theorem ring_observe :
    (t.observe c f streamId now).2.ring =
      t.ring.set f.sequence (some ⟨f.sequence, f.fingerprint, streamId, now⟩) :=
  (ring_arbitrate c (t.numbered c f streamId now) streamId now).trans
    (congrArg ring (numbered_eq c t f streamId now))

/-- **Accepted frames become the head.** -/
theorem head?_observe :
    (t.observe c f streamId now).2.head? =
      if (t.arrival c f now).isAccepted then some ⟨f.sequence, now⟩ else t.head? :=
  (head?_arbitrate c (t.numbered c f streamId now) streamId now).trans
    (head?_numbered c t f streamId now)

end Observe

/-- A step with a frame moves the head if the frame is accepted. -/
theorem head?_step_frame (c : MonitorConf) (t : Track) (f : Frame) (streamId : String) (now : Nat) :
    (t.step c (.frame f streamId now)).2.head? =
      if (t.arrival c.sequence f now).isAccepted then some ⟨f.sequence, now⟩ else t.head? :=
  head?_observe c.sequence t f streamId now

/-! ### Other events -/

/-- The frame of an event that brings one that may be used. -/
def Event.frame? : Event → Option (Frame × Nat)
  | .frame f _ now => some (f, now)
  | .invalid _ _ _ => none
  | .sweep _ => none

/-- How many of the events bring a frame that may be used. -/
def frames (events : List Event) : Nat :=
  events.countP fun e => e.frame?.isSome

/-- How many of the events bring a frame that may not be used. -/
def rejected (events : List Event) : Nat :=
  events.countP fun e => e matches .invalid _ _ _

/-- Frames are counted event by event. -/
theorem frames_cons (e : Event) (events : List Event) :
    frames (e :: events) = frames [e] + frames events :=
  @List.countP_append _ _ [e] events

/-- Frames that may not be used are counted event by event. -/
theorem rejected_cons (e : Event) (events : List Event) :
    rejected (e :: events) = rejected [e] + rejected events :=
  @List.countP_append _ _ [e] events

/-- Events without a valid frame leave the ring alone. -/
theorem ring_step {c : MonitorConf} {t : Track} {e : Event} (h : e.frame? = none) :
    (t.step c e).2.ring = t.ring := by
  cases e with
  | frame f streamId now => contradiction
  | invalid streamId now reason => rfl
  | sweep now => rfl

/-- Events without a valid frame leave the head alone. -/
theorem head?_step {c : MonitorConf} {t : Track} {e : Event} (h : e.frame? = none) :
    (t.step c e).2.head? = t.head? := by
  cases e with
  | frame f streamId now => contradiction
  | invalid streamId now reason => rfl
  | sweep now => rfl

/-- Events leave the system of a track alone. -/
theorem systemId_step (c : MonitorConf) (t : Track) (e : Event) :
    (t.step c e).2.systemId = t.systemId := by
  cases e with
  | frame f streamId now =>
      exact (systemId_arbitrate c.sequence (t.numbered c.sequence f streamId now) streamId
        now).trans (systemId_numbered c.sequence t f streamId now)
  | invalid streamId now reason => rfl
  | sweep now => rfl

/-- A run leaves the system of a track alone. -/
theorem systemId_run (c : MonitorConf) (t : Track) (events : List Event) :
    (t.run c events).systemId = t.systemId := by
  induction events generalizing t with
  | nil => rfl
  | cons e events ih => exact (ih (t.step c e).2).trans (systemId_step c t e)

end Track

/-- A frame of a system with a sequence number. -/
def Sample.frame (systemId sequence : UInt8) : Frame where
  version := .v2
  sequence := sequence
  systemId := systemId
  componentId := 1
  messageId := 0
  payload := [4, 0, 0, 0, 2, 12, 81, 4, 3]
  checksum := 0
  isSigned := false
  incompatFlags := 0
  compatFlags := 0
  signature? := none
  outcome := .unsigned

end Mavlink
