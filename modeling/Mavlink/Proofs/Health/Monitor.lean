import Mathlib.Algebra.BigOperators.Group.List.Basic
import Mathlib.Algebra.GroupWithZero.Nat
import Mathlib.Data.List.Induction
import Mathlib.Data.List.Nodup
import Mavlink.Health.Monitor
import Mavlink.Proofs.Health.Track

/-!
# Runs of a monitor

A monitor takes in frames of any systems and is swept now and then. What becomes of the track of one
system follows from the events that concern it: its own frames and the sweeps. So the track of a
system that is known has come from its first frame, by a run of the events that concern it.

## Main results

* `Monitor.get_step`, `Monitor.get_run`: the track of a system after an event, and after a run.
* `Monitor.exists_first_frame`: where the track of a system that is known has come from.
* `Monitor.systemId_of_get`: the track of a system bears the system's id.
-/

namespace Mavlink

/-! ### What sweeps forget -/

namespace SweepResult

/-- What several sweeps have forgotten together. -/
def total (results : List SweepResult) : SweepResult where
  removedSystems := (results.map removedSystems).sum
  removedSources := (results.map removedSources).sum

/-- Sweeps add up, the first one and the others. -/
theorem total_cons (r : SweepResult) (results : List SweepResult) :
    total (r :: results) = ⟨r.removedSystems + (total results).removedSystems,
      r.removedSources + (total results).removedSources⟩ :=
  rfl

/-- A sweep that forgets nothing adds nothing. -/
theorem total_cons_empty (results : List SweepResult) : total ({} :: results) = total results := by
  rw [total_cons, Nat.zero_add, Nat.zero_add]

/-- Sweeps add up, the earlier ones and the last one. -/
theorem total_concat (results : List SweepResult) (r : SweepResult) :
    total (results ++ [r]) = ⟨(total results).removedSystems + r.removedSystems,
      (total results).removedSources + r.removedSources⟩ := by
  simp only [total, List.map_append, List.sum_append, List.map_cons, List.map_nil, List.sum_cons,
    List.sum_nil, Nat.add_zero]

/-- Ids without a track add nothing to a total. -/
theorem total_map_filterMap {α β : Type} (ids : List α) (track? : α → Option β)
    (result : β → SweepResult) :
    total ((ids.filterMap track?).map result) =
      total (ids.map fun id => (track? id).elim {} result) := by
  induction ids with
  | nil => rfl
  | cons id ids ih =>
      rw [List.map_cons]
      cases htrack : track? id with
      | none => rw [List.filterMap_cons_none htrack, ih, Option.elim_none, total_cons_empty]
      | some track =>
          rw [List.filterMap_cons_some htrack, List.map_cons, total_cons, ih, Option.elim_some,
            total_cons]

/-- A total in which all results but one are empty is that one. -/
theorem total_map_eq {ids : List UInt8} (hids : ids.Nodup) {s : UInt8} (hs : s ∈ ids)
    {result : UInt8 → SweepResult} (h : ∀ id, id ≠ s → result id = {}) :
    total (ids.map result) = result s := by
  have hsum : ∀ count : SweepResult → Nat, count {} = 0 →
      ((ids.map result).map count).sum = count (result s) := by
    intro count hcount
    rw [List.map_map, List.sum_map_eq_nsmul_single s (count ∘ result), List.count_eq_one_of_mem
      hids hs, one_nsmul]
    · rfl
    · intro id hne _
      rw [Function.comp_apply, h id hne, hcount]
  rw [total, hsum removedSystems rfl, hsum removedSources rfl]

end SweepResult

namespace Track

/-- What a sweep forgets of one system: its silent sources, and the system if it has expired. -/
def removed (c : MonitorConf) (now : Nat) (t : Track) : SweepResult where
  removedSystems := if t.isExpired c.sweep now then 1 else 0
  removedSources := (t.sweep c now).1

/-- Forgetting sources does not change when a system was heard last. -/
theorem isExpired_sweep (c : MonitorConf) (c' : SweepConf) (t : Track) (now now' : Nat) :
    (t.sweep c now).2.isExpired c' now' = t.isExpired c' now' :=
  rfl

/-- What a sweep leaves of one system. -/
def swept (c : MonitorConf) (now : Nat) (t : Track) : Option Track :=
  if t.isExpired c.sweep now then none else some (t.sweep c now).2

/-- What becomes of the track of a system, which may be unknown. Frames that may be used make it
known, others are ignored if it is not, and sweeps forget it if it has expired. -/
def next? (c : MonitorConf) (systemId : UInt8) (track? : Option Track) (e : Event) :
    Option Track :=
  match e with
  | .frame _ _ _ => some ((track?.getD (new systemId)).step c e).2
  | .invalid _ _ _ => track?.map fun t => (t.step c e).2
  | .sweep now => track?.bind (swept c now)

/-- A track that is not forgotten takes a step. -/
theorem eq_step_of_next?_eq_some {c : MonitorConf} {systemId : UInt8} {t t' : Track} {e : Event}
    (h : next? c systemId (some t) e = some t') : t' = (t.step c e).2 := by
  cases e with
  | frame f streamId now | invalid streamId now reason => exact (Option.some.inj h).symm
  | sweep now =>
      rw [next?, Option.bind_some, swept] at h
      split at h
      · contradiction
      · exact (Option.some.inj h).symm

/-- A system becomes known by a frame that may be used. -/
theorem exists_frame_of_next?_eq_some {c : MonitorConf} {systemId : UInt8} {t : Track} {e : Event}
    (h : next? c systemId none e = some t) :
    ∃ f streamId now, e = .frame f streamId now ∧ t = ((new systemId).step c e).2 := by
  cases e with
  | frame f streamId now => exact ⟨f, streamId, now, rfl, (Option.some.inj h).symm⟩
  | invalid streamId now reason | sweep now => contradiction

end Track

namespace Monitor

/-- A sweep treats every system on its own. -/
theorem get_sweep (m : Monitor) (now : Nat) (s : UInt8) :
    (m.sweep now).2.tracks.get s = (m.tracks.get s).bind (Track.swept m.conf now) :=
  Slots.get_filterMap _ _ s

/-- **What a sweep has forgotten** is the total over all system ids. -/
theorem sweep_fst (m : Monitor) (now : Nat) :
    (m.sweep now).1 =
      .total (Slots.indices.map fun s => (m.tracks.get s).elim {} (Track.removed m.conf now)) := by
  rw [← SweepResult.total_map_filterMap, ← Slots.entries_eq, sweep]
  generalize m.tracks.entries = tracks
  induction tracks with
  | nil => rfl
  | cons t tracks ih =>
      obtain ⟨hsystems, hsources⟩ := SweepResult.mk.inj ih
      rw [List.countP_cons, hsystems, Nat.add_comm, List.map_cons, List.foldr_cons, hsources,
        List.map_cons, SweepResult.total_cons]
      rfl

/-! ### Events -/

/-- What can happen to a monitor. -/
inductive Event
  | frame (f : Frame) (streamId : String) (now : Nat)
  | invalid (systemId : UInt8) (streamId : String) (now : Nat) (reason : FailureReason)
  | sweep (now : Nat)

/-- What a monitor answers to an event. -/
inductive Reply
  | detections (reports : List Detection)
  | swept (result : SweepResult)
  deriving DecidableEq

/-- What a monitor answers to an event, and the monitor after it. -/
def step (m : Monitor) : Event → Reply × Monitor
  | .frame f streamId now =>
    let (reports, m) := m.observe f streamId now
    (.detections reports, m)
  | .invalid systemId streamId now reason =>
    let (reports, m) := m.observeInvalid systemId streamId now reason
    (.detections reports, m)
  | .sweep now =>
    let (result, m) := m.sweep now
    (.swept result, m)

/-- The monitor after several events. -/
def run (m : Monitor) (events : List Event) : Monitor :=
  events.foldl (fun m e => (m.step e).2) m

/-- A run goes on where an earlier one has ended. -/
theorem run_append (m : Monitor) (events events' : List Event) :
    m.run (events ++ events') = (m.run events).run events' :=
  List.foldl_append

namespace Event

/-- The system that an event is addressed to. Sweeps are addressed to none. -/
def systemId? : Event → Option UInt8
  | .frame f _ _ => some f.systemId
  | .invalid systemId _ _ _ => some systemId
  | .sweep _ => none

/-- What a system sees of an event: calls that are addressed to it, and sweeps. -/
def seenBy (systemId : UInt8) : Event → Option Track.Event
  | .frame f streamId now => if f.systemId = systemId then some (.frame f streamId now) else none
  | .invalid id streamId now reason =>
    if id = systemId then some (.invalid streamId now reason) else none
  | .sweep now => some (.sweep now)

/-- A system sees all but the calls that are addressed to others. -/
theorem seenBy_eq_none_iff {systemId : UInt8} {e : Event} :
    e.seenBy systemId = none ↔ ∃ id, e.systemId? = some id ∧ id ≠ systemId := by
  cases e with
  | frame f streamId now =>
      by_cases hsame : f.systemId = systemId
      · simp [seenBy, systemId?, hsame]
      · simp [seenBy, systemId?, hsame]
  | invalid id streamId now reason =>
      by_cases hsame : id = systemId
      · simp [seenBy, systemId?, hsame]
      · simp [seenBy, systemId?, hsame]
  | sweep now => simp [seenBy, systemId?]

/-- A system sees a frame that may be used only if the frame is one of its own. -/
theorem eq_frame_of_seenBy {systemId : UInt8} {e : Event} {f : Frame} {streamId : String}
    {now : Nat} (h : e.seenBy systemId = some (.frame f streamId now)) :
    e = .frame f streamId now ∧ f.systemId = systemId := by
  cases e with
  | frame f' streamId' now' =>
      rw [seenBy] at h
      split at h
      · next hsame =>
          cases h
          exact ⟨rfl, hsame⟩
      · contradiction
  | invalid id streamId' now' reason =>
      rw [seenBy] at h
      split at h <;> cases h
  | sweep now' => cases h

end Event

/-! ### The track of one system -/

/-- A monitor is determined by its configuration and its tracks. -/
theorem ext_get {m m' : Monitor} (hconf : m.conf = m'.conf)
    (htracks : ∀ s, m.tracks.get s = m'.tracks.get s) : m = m' := by
  obtain ⟨conf, tracks⟩ := m
  obtain ⟨conf', tracks'⟩ := m'
  obtain rfl : conf = conf' := hconf
  exact congrArg _ (Slots.ext_get htracks)

/-- An event leaves the configuration alone. -/
theorem conf_step (m : Monitor) (e : Event) : (m.step e).2.conf = m.conf := by
  cases e with
  | frame f streamId now | sweep now => rfl
  | invalid systemId streamId now reason =>
      simp only [step, observeInvalid]
      split <;> rfl

/-- A run leaves the configuration alone. -/
theorem conf_run (m : Monitor) (events : List Event) : (m.run events).conf = m.conf := by
  induction events generalizing m with
  | nil => rfl
  | cons e events ih => exact (ih (m.step e).2).trans (conf_step m e)

/-- The track of a system after a frame that may not be used. -/
theorem get_observeInvalid (m : Monitor) (systemId : UInt8) (streamId : String) (now : Nat)
    (reason : FailureReason) (s : UInt8) :
    (m.observeInvalid systemId streamId now reason).2.tracks.get s =
      if systemId = s then
        (m.tracks.get s).map fun t => (t.observeInvalid streamId now reason).2
      else m.tracks.get s := by
  rw [observeInvalid]
  by_cases hsame : systemId = s
  · subst hsame
    cases htrack : m.tracks.get systemId with
    | none => rw [if_pos rfl, htrack, Option.map_none]
    | some t => rw [if_pos rfl, Slots.get_set, if_pos rfl, Option.map_some]
  · rw [if_neg hsame]
    split
    · rfl
    · rw [Slots.get_set, if_neg hsame]

/-- **The track of a system after an event** is what becomes of its track before, if it sees the
event, and is left alone if it does not. -/
theorem get_step (m : Monitor) (e : Event) (s : UInt8) :
    (m.step e).2.tracks.get s =
      match e.seenBy s with
      | none => m.tracks.get s
      | some seen => Track.next? m.conf s (m.tracks.get s) seen := by
  cases e with
  | frame f streamId now =>
      rw [Event.seenBy, step, observe, Slots.get_set]
      by_cases hsame : f.systemId = s
      · subst hsame
        rw [if_pos rfl, if_pos rfl]
        rfl
      · rw [if_neg hsame, if_neg hsame]
  | invalid systemId streamId now reason =>
      rw [Event.seenBy, step, get_observeInvalid]
      by_cases hsame : systemId = s
      · rw [if_pos hsame, if_pos hsame]
        rfl
      · rw [if_neg hsame, if_neg hsame]
  | sweep now => exact get_sweep m now s

/-- **The track of a system after a run** follows from the events that the system sees. -/
theorem get_run (m : Monitor) (events : List Event) (s : UInt8) :
    (m.run events).tracks.get s =
      (events.filterMap (Event.seenBy s)).foldl (Track.next? m.conf s) (m.tracks.get s) := by
  induction events generalizing m with
  | nil => rfl
  | cons e events ih =>
      have hrest : ((m.step e).2.run events).tracks.get s = _ := ih (m.step e).2
      rw [conf_step, get_step] at hrest
      rw [List.filterMap_cons]
      cases hseen : e.seenBy s with
      | none =>
          rw [hseen] at hrest
          exact hrest
      | some seen =>
          rw [hseen] at hrest
          exact hrest

/-- The track of a system after one more event. -/
theorem get_run_concat (m : Monitor) (events : List Event) (e : Event) (s : UInt8) :
    (m.run (events ++ [e])).tracks.get s =
      match e.seenBy s with
      | none => (m.run events).tracks.get s
      | some seen => Track.next? m.conf s ((m.run events).tracks.get s) seen := by
  rw [run_append, ← conf_run m events]
  exact get_step (m.run events) e s

/-! ### What is known of one system -/

/-- A new monitor knows no system. -/
theorem get_new (conf : MonitorConf) (s : UInt8) : (new conf).tracks.get s = none :=
  Slots.get_empty s

/-- The track that a frame of a system finds: that of a system that has not been heard, if the
system is unknown. -/
def track (m : Monitor) (s : UInt8) : Track :=
  (m.tracks.get s).getD (Track.new s)

/-- The head and the counters of a system, if it is known. -/
def standing (m : Monitor) (s : UInt8) : Option (Option Head × Counters) :=
  (m.tracks.get s).map fun t => (t.head?, t.counters)

/-- A frame makes its system known. -/
theorem get_step_frame (m : Monitor) (f : Frame) (streamId : String) (now : Nat) :
    (m.step (.frame f streamId now)).2.tracks.get f.systemId =
      some ((m.track f.systemId).step m.conf (.frame f streamId now)).2 := by
  have hseen : (Event.frame f streamId now).seenBy f.systemId = some (.frame f streamId now) :=
    if_pos rfl
  rw [get_step, hseen]
  rfl

/-- A call for one system leaves the tracks of the others alone. -/
theorem get_step_of_ne (m : Monitor) {e : Event} {id s : UInt8} (h : e.systemId? = some id)
    (hne : id ≠ s) : (m.step e).2.tracks.get s = m.tracks.get s := by
  rw [get_step, Event.seenBy_eq_none_iff.2 ⟨id, h, hne⟩]

/-! ### Where a track has come from -/

/-- **Where the track of a system has come from**: of the frames that the system has sent, one found
it unknown. Since then it has always been known, and the track is what the events that the system
has seen have made of the track of a system that has not been heard. -/
theorem exists_first_frame (conf : MonitorConf) (events : List Event) {s : UInt8} {t : Track}
    (h : ((new conf).run events).tracks.get s = some t) :
    ∃ before f streamId now later, events = before ++ .frame f streamId now :: later ∧
      f.systemId = s ∧ ((new conf).run before).tracks.get s = none ∧
      (∀ middle, middle <+: later →
        (((new conf).run (before ++ .frame f streamId now :: middle)).tracks.get s).isSome) ∧
      t = (Track.new s).run conf (.frame f streamId now :: later.filterMap (Event.seenBy s)) := by
  induction events using List.reverseRecOn generalizing t with
  | nil =>
      have hempty : ((new conf).run []).tracks.get s = none := get_new conf s
      rw [hempty] at h
      contradiction
  | append_singleton events e ih =>
      have hlast := h
      rw [get_run_concat] at hlast
      cases hearlier : ((new conf).run events).tracks.get s with
      | none =>
          -- The system was unknown, so the last event is its first frame.
          rw [hearlier] at hlast
          cases hseen : e.seenBy s with
          | none =>
              rw [hseen] at hlast
              contradiction
          | some seen =>
              rw [hseen] at hlast
              obtain ⟨f, streamId, now, rfl, rfl⟩ := Track.exists_frame_of_next?_eq_some hlast
              obtain ⟨rfl, hsystem⟩ := Event.eq_frame_of_seenBy hseen
              refine ⟨events, f, streamId, now, [], rfl, hsystem, hearlier, ?_, rfl⟩
              intro middle hprefix
              rw [List.prefix_nil.1 hprefix, h]
              rfl
      | some earlier =>
          -- The system was known, so the last event was a later one.
          rw [hearlier] at hlast
          obtain ⟨before, f, streamId, now, later, rfl, hsystem, hunknown, hknown, rfl⟩ :=
            ih hearlier
          refine ⟨before, f, streamId, now, later ++ [e], ?_, hsystem, hunknown, ?_, ?_⟩
          · rw [List.append_assoc, List.cons_append]
          · intro middle hprefix
            obtain rfl | hprefix := List.prefix_concat_iff.1 hprefix
            · rw [← List.cons_append, ← List.append_assoc, h]
              rfl
            · exact hknown middle hprefix
          · rw [List.filterMap_append]
            cases hseen : e.seenBy s with
            | none =>
                rw [hseen] at hlast
                rw [List.filterMap_cons_none hseen, List.filterMap_nil, List.append_nil]
                exact (Option.some.inj hlast).symm
            | some seen =>
                rw [hseen] at hlast
                rw [List.filterMap_cons_some hseen, List.filterMap_nil, ← List.cons_append,
                  Track.run_append]
                exact Track.eq_step_of_next?_eq_some hlast

/-- The track of a system bears the system's id. -/
theorem systemId_of_get (conf : MonitorConf) (events : List Event) {s : UInt8} {t : Track}
    (h : ((new conf).run events).tracks.get s = some t) : t.systemId = s := by
  obtain ⟨-, f, streamId, now, later, -, -, -, -, rfl⟩ := exists_first_frame conf events h
  exact Track.systemId_run conf (Track.new s) _

end Monitor

end Mavlink
