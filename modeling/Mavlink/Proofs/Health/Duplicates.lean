import Mavlink.Proofs.Health.History
import Mavlink.Proofs.Health.Isolation
import Mavlink.Proofs.Health.SweepCounts

/-!
# When a frame is reported as a duplicate

A frame is reported as a duplicate in two cases. If the last frame with its sequence number came
within a window, then the two are compared, and the frame is a duplicate if their fingerprints
agree. If not, then nothing is compared, and the frame is a duplicate if the numbering stands at its
number. So a system that falls silent and sends another frame with the number of its last one is
reported to have sent a duplicate.

The frames of a system that count are those since the system has become known, because whatever is
remembered of a system is forgotten with it.

## Main results

* `History.duplicate_mem_judge_iff`: when the judgement by a history asks for the report.
* `Monitor.track_run`: the track of a system is what its events since it is known have made.
* `Monitor.reportsDuplicate_iff`: when a monitor reports a duplicate.
* `Monitor.reportsDuplicate_without_repetition`: such a frame need not repeat another one.
-/

namespace Mavlink

/-! ### Judgements -/

namespace History

open Occurrence

/-- A frame repeats the last one with its sequence number, as far as can be told: within the window
by its fingerprint, and later by the number that the head has. -/
def IsRepeated (c : SequenceConf) (h : List Occurrence) (o : Occurrence) : Prop :=
  ∃ last, lastWith o.sequence h = some last ∧
    if IsWithin c.duplicateTime last o then last.fingerprint = o.fingerprint
    else (head? c h).map Occurrence.sequence = some o.sequence

variable {c : SequenceConf}

/-- The head is one of the frames of the history. -/
theorem head?_mem {h : List Occurrence} {head : Occurrence} (hhead : head? c h = some head) :
    head ∈ h := by
  induction h with
  | nil => contradiction
  | cons o earlier ih =>
      rw [head?_cons] at hhead
      split at hhead
      · obtain rfl := Option.some.inj hhead
        exact List.mem_cons_self
      · exact List.mem_cons_of_mem o (ih hhead)

/-- So there is a last frame with the number of the head. -/
theorem lastWith_ne_none_of_head? {h : List Occurrence} {head : Occurrence}
    (hhead : head? c h = some head) : lastWith head.sequence h ≠ none := by
  intro hnone
  exact List.find?_eq_none.1 hnone head (head?_mem hhead) (decide_eq_true rfl)

/-- Two frames are no distance apart exactly if they have one sequence number. -/
theorem distance_eq_zero_iff {first second : Occurrence} :
    distance first second = 0 ↔ first.sequence = second.sequence := by
  have hfirst := first.sequence.toNat_lt
  have hsecond := second.sequence.toNat_lt
  rw [distance, ← UInt8.toNat_inj]
  omega

/-- Relative to the head, only a frame with its number is a duplicate. -/
theorem duplicate_mem_judgeByHead_iff {head o : Occurrence} :
    .duplicate ∈ (judgeByHead c head o).notices.map Notice.kind ↔ head.sequence = o.sequence := by
  rw [← distance_eq_zero_iff, judgeByHead]
  split
  · next hsame => simp [hsame]
  · next hsame =>
      simp only [hsame, iff_false]
      split
      · split <;> simp
      · split
        · simp
        · dsimp only
          split <;> simp

/-- **When the judgement by a history asks for a report of a duplicate.** -/
theorem duplicate_mem_judge_iff {h : List Occurrence} {o : Occurrence} :
    .duplicate ∈ (judge c h o).notices.map Notice.kind ↔ IsRepeated c h o := by
  rw [judge, IsRepeated, judgeBy.eq_def]
  cases hlast : lastWith o.sequence h with
  | none =>
      -- No frame with the number is known, so the number is not that of the head.
      rw [Option.filter_none]
      cases hhead : head? c h with
      | none => simp
      | some head =>
          have hne : head.sequence ≠ o.sequence := fun hsame =>
            lastWith_ne_none_of_head? hhead (hsame ▸ hlast)
          simp [duplicate_mem_judgeByHead_iff, hne]
  | some last =>
      by_cases hwithin : IsWithin c.duplicateTime last o
      · by_cases hsame : last.fingerprint = o.fingerprint
        · simp [Option.filter_some, hwithin, hsame]
        · simp [Option.filter_some, hwithin, hsame]
      · cases hhead : head? c h with
        | none => simp [Option.filter_some, hwithin]
        | some head => simp [Option.filter_some, hwithin, duplicate_mem_judgeByHead_iff]

end History

/-! ### Tracks -/

/-- The kinds that are noticed are those of the findings about sequence numbers. -/
theorem Finding.kind_mem_notices_iff {findings : List Finding} {kind : DetectionKind}
    (h : kind.isSequential = true) :
    kind ∈ (findings.filterMap Finding.notice?).map Notice.kind ↔
      ∃ x ∈ findings, x.kind = kind := by
  simp only [List.mem_map, List.mem_filterMap]
  constructor
  · rintro ⟨n, ⟨x, hx, hnotice⟩, rfl⟩
    rw [notice?] at hnotice
    split at hnotice
    · obtain rfl := Option.some.inj hnotice
      exact ⟨x, hx, rfl⟩
    · contradiction
  · rintro ⟨x, hx, rfl⟩
    exact ⟨_, ⟨x, hx, if_pos h⟩, rfl⟩

namespace Track

/-- A track reports a duplicate exactly if the frame repeats another one by what is remembered. -/
theorem duplicate_mem_detect_iff {c : MonitorConf} {t : Track} {h : List Occurrence}
    (ht : t.Remembers c.sequence h) (f : Frame) (streamId : String) (now : Nat) :
    .duplicate ∈ (t.detect c (.frame f streamId now)).map Detection.kind ↔
      History.IsRepeated c.sequence h (f.occurrence now) := by
  have hkinds : (t.detect c (.frame f streamId now)).map Detection.kind =
      (t.observe c.sequence f streamId now).1.map Finding.kind := List.map_map
  rw [hkinds, ← History.duplicate_mem_judge_iff, ← notices_observe ht f streamId now,
    Finding.kind_mem_notices_iff rfl, List.mem_map]

end Track

/-! ### Monitors -/

namespace Monitor

/-- A frame over a stream is reported as a duplicate. -/
def ReportsDuplicate (m : Monitor) (f : Frame) (streamId : String) (now : Nat) : Prop :=
  .duplicate ∈ (m.step (.frame f streamId now)).1.reports.map Detection.kind

instance (m : Monitor) (f : Frame) (streamId : String) (now : Nat) :
    Decidable (m.ReportsDuplicate f streamId now) :=
  inferInstanceAs (Decidable (_ ∈ _))

/-- The events since a system has become known, given those before: none if it is unknown. -/
def lifetime (s : UInt8) (m : Monitor) (life : List Event) : List Event → List Event
  | [] => life
  | e :: events =>
    lifetime s (m.step e).2 (if (m.step e).2.knows s then life ++ [e] else []) events

/-- The frames of a system that may be used, since the system has become known, with the latest one
first. -/
def history (conf : MonitorConf) (s : UInt8) (events : List Event) : List Occurrence :=
  Track.history ((lifetime s (new conf) [] events).filterMap (Event.seenBy s))

/-- The track of a system takes in what the system sees of an event, unless it is forgotten. -/
theorem track_step (m : Monitor) (e : Event) (s : UInt8) :
    (m.step e).2.track s =
      if (m.step e).2.knows s then (m.track s).run m.conf (e.seenBy s).toList
      else Track.new s := by
  have hget := get_step m e s
  cases hseen : e.seenBy s with
  | none =>
      rw [hseen] at hget
      rw [track, track, knows, hget]
      cases m.tracks.get s with
      | none => rfl
      | some t => rfl
  | some seen =>
      replace hget : (m.step e).2.tracks.get s =
          Track.next? m.conf s (m.tracks.get s) seen := by rw [hget, hseen]
      rw [track, track, knows, hget]
      cases htrack : m.tracks.get s with
      | none =>
          cases hnext : Track.next? m.conf s none seen with
          | none => rfl
          | some t' =>
              obtain ⟨-, -, -, -, rfl⟩ := Track.exists_frame_of_next?_eq_some hnext
              rfl
      | some t =>
          cases hnext : Track.next? m.conf s (some t) seen with
          | none => rfl
          | some t' =>
              obtain rfl := Track.eq_step_of_next?_eq_some hnext
              rfl

/-- **The track of a system** is what the events since it is known have made of the track of a
system that has not been heard. -/
theorem track_run (s : UInt8) (events : List Event) {m : Monitor} {life : List Event}
    (h : m.track s = (Track.new s).run m.conf (life.filterMap (Event.seenBy s))) :
    (m.run events).track s =
      (Track.new s).run m.conf ((m.lifetime s life events).filterMap (Event.seenBy s)) := by
  -- The track is that of the events that have been taken up, also if they are dropped.
  induction events generalizing m life with
  | nil => exact h
  | cons e events ih =>
      have hconf : (m.step e).2.conf = m.conf := conf_step m e
      rw [lifetime, ← hconf]
      refine ih ?_
      rw [track_step, hconf, h]
      split
      · rw [List.filterMap_append, Track.run_append, List.filterMap_cons, List.filterMap_nil]
        cases e.seenBy s with
        | none => rfl
        | some seen => rfl
      · rfl

/-- The track of a system remembers the history of the system. -/
theorem remembers_track (conf : MonitorConf) (events : List Event) (s : UInt8) :
    (((new conf).run events).track s).Remembers conf.sequence (history conf s events) := by
  have hnew : (new conf).track s =
      (Track.new s).run conf (([] : List Event).filterMap (Event.seenBy s)) := by
    rw [track, get_new]
    rfl
  have htrack : ((new conf).run events).track s = (Track.new s).run conf
      ((lifetime s (new conf) [] events).filterMap (Event.seenBy s)) := track_run s events hnew
  have hrun := Track.remembers_run (Track.remembers_new conf.sequence s)
    ((lifetime s (new conf) [] events).filterMap (Event.seenBy s))
  rw [List.append_nil] at hrun
  rw [htrack]
  exact hrun

/-- **When a monitor reports a duplicate.** After any events, a frame that may be used is reported
as a duplicate exactly if its system has sent a frame with its sequence number since it has become
known, and the last such frame

* came within the window before it and has its fingerprint, or
* did not come within the window, and the numbering stands at its number. -/
theorem reportsDuplicate_iff (conf : MonitorConf) (events : List Event) (f : Frame)
    (streamId : String) (now : Nat) :
    let m := (new conf).run events
    m.ReportsDuplicate f streamId now ↔
      ∃ last, History.lastWith f.sequence (history conf f.systemId events) = some last ∧
        if last.time ≤ now ∧ now - last.time ≤ conf.sequence.duplicateTime then
          last.fingerprint = f.fingerprint
        else (m.track f.systemId).head?.map Head.sequence = some f.sequence := by
  intro m
  have hconf : m.conf = conf := conf_run (new conf) events
  have hremembers := remembers_track conf events f.systemId
  rw [ReportsDuplicate, step_frame_fst_eq_detect, Reply.reports, hconf,
    Track.duplicate_mem_detect_iff hremembers, History.IsRepeated, hremembers.head?_eq,
    Option.map_map, Frame.fingerprint_occurrence]
  exact Iff.rfl

/-- **A frame that is reported as a duplicate need not repeat another one.** A system falls silent,
and sends another frame with the number of its last one. -/
theorem reportsDuplicate_without_repetition :
    ¬ ∀ conf events f streamId now, ((new conf).run events).ReportsDuplicate f streamId now →
      ∃ last, History.lastWith f.sequence (history conf f.systemId events) = some last ∧
        last.fingerprint = f.fingerprint := by
  intro h
  obtain ⟨last, hlast, hsame⟩ := h {} [.frame (Sample.frame 1 5) "udp" 0]
    { Sample.frame 1 5 with payload := [1] } "udp" 3000000000 (by decide +kernel)
  have hfirst : History.lastWith 5 (history {} 1 [.frame (Sample.frame 1 5) "udp" 0]) =
      some ⟨5, (Sample.frame 1 5).fingerprint, 0⟩ := by decide +kernel
  obtain rfl := Option.some.inj (hfirst.symm.trans hlast)
  exact absurd hsame (by decide +kernel)

end Monitor

end Mavlink
