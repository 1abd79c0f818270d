import Mathlib.Data.List.Basic
import Mavlink.Proofs.Health.Monitor

/-!
# Systems do not disturb each other

One monitor watches many systems. What it says of a system depends on the calls that are addressed
to that system and on the sweeps, and on nothing else: it is what a monitor of its own would say.

## Main results

* `Monitor.step_fst`: what is detected about a call follows from the track of its system.
* `Monitor.get_run_filter`: the track of a system follows from the events that concern it.
* `Monitor.isolated_run`: what a monitor says of a system, in whole runs.
-/

namespace Mavlink

/-- What is detected about an event of a system, which may be unknown. -/
def Track.detected (c : MonitorConf) (systemId : UInt8) (track? : Option Track) (e : Event) :
    List Detection :=
  match e with
  | .frame _ _ _ => (track?.getD (new systemId)).detect c e
  | .invalid _ _ _ => track?.elim [] fun t => t.detect c e
  | .sweep _ => []

namespace Monitor

namespace Event

/-- Whether an event concerns a system: calls that are addressed to it do, and sweeps. -/
def concerns (systemId : UInt8) (e : Event) : Bool :=
  e.systemId?.all (· = systemId)

/-- The system, the stream and the time of a call that is addressed to a system. -/
def origin? : Event → Option (UInt8 × String × Nat)
  | .frame f streamId now => some (f.systemId, streamId, now)
  | .invalid systemId streamId now _ => some (systemId, streamId, now)
  | .sweep _ => none

/-- A system sees nothing of the events that do not concern it. -/
theorem filterMap_seenBy_filter (systemId : UInt8) (events : List Event) :
    (events.filter (concerns systemId)).filterMap (seenBy systemId) =
      events.filterMap (seenBy systemId) := by
  rw [List.filterMap_filter]
  refine List.filterMap_congr fun e _ => ?_
  cases e with
  | frame f streamId now => simp [concerns, systemId?, seenBy]
  | invalid id streamId now reason => simp [concerns, systemId?, seenBy]
  | sweep now => rfl

end Event

/-- The detections of a reply. -/
def Reply.reports : Reply → List Detection
  | .detections reports => reports
  | .swept _ => []

/-! ### Replies -/

/-- The reply to a frame depends on the track of its system only. -/
theorem step_frame_fst (m : Monitor) (f : Frame) (streamId : String) (now : Nat) :
    (m.step (.frame f streamId now)).1 = .detections
      (Track.detected m.conf f.systemId (m.tracks.get f.systemId) (.frame f streamId now)) := by
  have hid := Track.systemId_step m.conf ((m.tracks.get f.systemId).getD (Track.new f.systemId))
    (.frame f streamId now)
  rw [Track.detected, Track.detect, ← hid]
  rfl

/-- What is detected about a frame is what the track that it finds detects. -/
theorem step_frame_fst_eq_detect (m : Monitor) (f : Frame) (streamId : String) (now : Nat) :
    (m.step (.frame f streamId now)).1 =
      .detections ((m.track f.systemId).detect m.conf (.frame f streamId now)) :=
  step_frame_fst m f streamId now

/-- The reply to a frame that may not be used depends on the track of its system only. -/
theorem step_invalid_fst (m : Monitor) (systemId : UInt8) (streamId : String) (now : Nat)
    (reason : FailureReason) :
    (m.step (.invalid systemId streamId now reason)).1 = .detections
      (Track.detected m.conf systemId (m.tracks.get systemId) (.invalid streamId now reason)) := by
  rw [step, observeInvalid, Track.detected]
  cases m.tracks.get systemId with
  | none => rfl
  | some t => rfl

/-- **What is detected about a call** follows from the track of the system that it is addressed to
and from the configuration. -/
theorem step_fst {s : UInt8} {e : Event} (h : e.systemId? = some s) :
    ∃ seen, e.seenBy s = some seen ∧
      ∀ m : Monitor, (m.step e).1 =
        .detections (Track.detected m.conf s (m.tracks.get s) seen) := by
  cases e with
  | frame f streamId now =>
      obtain rfl := Option.some.inj h
      exact ⟨_, if_pos rfl, fun m => step_frame_fst m f streamId now⟩
  | invalid systemId streamId now reason =>
      obtain rfl := Option.some.inj h
      exact ⟨_, if_pos rfl, fun m => step_invalid_fst m systemId streamId now reason⟩
  | sweep now => contradiction

/-- Two monitors with one configuration and one track of a system reply in the same way to the calls
that are addressed to it. -/
theorem step_fst_congr {m m' : Monitor} {s : UInt8} {e : Event} (h : e.systemId? = some s)
    (hconf : m.conf = m'.conf) (htrack : m.tracks.get s = m'.tracks.get s) :
    (m.step e).1 = (m'.step e).1 := by
  obtain ⟨seen, -, hreply⟩ := step_fst h
  rw [hreply m, hreply m', hconf, htrack]

/-- What is detected about a call is about its system, on its stream and at its time. -/
theorem origin?_of_mem_reports (conf : MonitorConf) (events : List Event) (e : Event)
    {d : Detection} (h : d ∈ (((new conf).run events).step e).1.reports) :
    e.origin? = some (d.systemId, d.streamId, d.time) := by
  cases e with
  | frame f streamId now =>
      rw [step_frame_fst] at h
      obtain ⟨finding, -, rfl⟩ := List.mem_map.1 h
      refine congrArg some (Prod.ext ?_ rfl)
      cases htrack : ((new conf).run events).tracks.get f.systemId with
      | none => rfl
      | some t => exact (systemId_of_get conf events htrack).symm
  | invalid systemId streamId now reason =>
      rw [step_invalid_fst] at h
      cases htrack : ((new conf).run events).tracks.get systemId with
      | none =>
          rw [htrack] at h
          contradiction
      | some t =>
          rw [htrack] at h
          obtain ⟨finding, -, rfl⟩ := List.mem_map.1 h
          exact congrArg some (Prod.ext (systemId_of_get conf events htrack).symm rfl)
  | sweep now => contradiction

/-! ### One system on its own -/

/-- **The track of a system** follows from the events that concern the system. -/
theorem get_run_filter (m : Monitor) (events : List Event) (s : UInt8) :
    (m.run (events.filter (Event.concerns s))).tracks.get s = (m.run events).tracks.get s := by
  rw [get_run, get_run, Event.filterMap_seenBy_filter]

/-- A monitor that hears of one system only knows no other. -/
theorem get_run_filter_of_ne (conf : MonitorConf) (events : List Event) {s id : UInt8}
    (h : id ≠ s) :
    ((new conf).run (events.filter (Event.concerns s))).tracks.get id = none := by
  rw [Option.eq_none_iff_forall_ne_some]
  intro t ht
  obtain ⟨before, f, streamId, now, later, hsplit, hsystem, -⟩ := exists_first_frame conf _ ht
  have hmem : Event.frame f streamId now ∈ events.filter (Event.concerns s) :=
    hsplit ▸ List.mem_append_right before List.mem_cons_self
  have hconcerns : f.systemId = s := of_decide_eq_true (List.mem_filter.1 hmem).2
  exact h (hsystem.symm.trans hconcerns)

/-- What a monitor that hears of one system only forgets in a sweep is what is forgotten of that
system. -/
theorem sweep_run_filter_fst (conf : MonitorConf) (events : List Event) (s : UInt8) (now : Nat) :
    (((new conf).run (events.filter (Event.concerns s))).sweep now).1 =
      (((new conf).run events).tracks.get s).elim {} (Track.removed conf now) := by
  rw [sweep_fst, SweepResult.total_map_eq Slots.nodup_indices (Slots.mem_indices s)]
  · rw [get_run_filter, conf_run]
    rfl
  · intro id hne
    rw [get_run_filter_of_ne conf events hne]
    rfl

/-! ### Calls for different systems -/

section Commute

variable (m : Monitor) {e e' : Event} {s s' : UInt8}

/-- A system does not see a call that is addressed to another one. -/
theorem seenBy_of_ne (h : e.systemId? = some s) (hne : s ≠ s') : e.seenBy s' = none :=
  Event.seenBy_eq_none_iff.2 ⟨s, h, hne⟩

/-- The reply to a call is not changed by a call for another system. -/
theorem step_fst_step_of_ne (h : e.systemId? = some s) (h' : e'.systemId? = some s')
    (hne : s ≠ s') : ((m.step e').2.step e).1 = (m.step e).1 := by
  refine step_fst_congr h (conf_step m e') ?_
  rw [get_step, seenBy_of_ne h' hne.symm]

/-- Calls for different systems lead to the same monitor in either order. -/
theorem step_snd_comm (h : e.systemId? = some s) (h' : e'.systemId? = some s') (hne : s ≠ s') :
    ((m.step e).2.step e').2 = ((m.step e').2.step e).2 := by
  refine ext_get ?_ fun id => ?_
  · rw [conf_step, conf_step, conf_step, conf_step]
  · rw [get_step, get_step, get_step, get_step, conf_step, conf_step]
    by_cases hid : s = id
    · subst hid
      rw [seenBy_of_ne h' hne.symm]
    · rw [seenBy_of_ne h hid]

end Commute

/-- **Systems are isolated.** After any events, and for a fresh monitor that has taken in only those
of them that concern a system:

* both know the same of the system;
* both reply in the same way to every call that is addressed to it;
* what is detected about a call is about its system, on its stream and at its time;
* a sweep forgets in total what the monitors of the single systems would forget;
* calls for different systems get the same replies and lead to the same monitor in either order. -/
theorem isolated_run (conf : MonitorConf) (events : List Event) :
    let m := (new conf).run events
    let alone := fun s => (new conf).run (events.filter (Event.concerns s))
    (∀ s, m.snapshot? s = (alone s).snapshot? s) ∧
    (∀ s e, e.systemId? = some s → (m.step e).1 = ((alone s).step e).1) ∧
    (∀ e, ∀ d ∈ (m.step e).1.reports, e.origin? = some (d.systemId, d.streamId, d.time)) ∧
    (∀ now, (m.sweep now).1 =
      .total (Slots.indices.map fun s => ((alone s).sweep now).1)) ∧
    (∀ s s' e e', s ≠ s' → e.systemId? = some s → e'.systemId? = some s' →
      ((m.step e').2.step e).1 = (m.step e).1 ∧ ((m.step e).2.step e').1 = (m.step e').1 ∧
      ((m.step e).2.step e').2 = ((m.step e').2.step e).2) := by
  intro m alone
  have htrack : ∀ s, (alone s).tracks.get s = m.tracks.get s := get_run_filter (new conf) events
  have hconf : ∀ s, m.conf = (alone s).conf := fun s =>
    (conf_run (new conf) events).trans (conf_run (new conf) _).symm
  refine ⟨fun s => ?_, fun s e h => ?_, origin?_of_mem_reports conf events, fun now => ?_,
    fun s s' e e' hne h h' => ⟨?_, ?_, ?_⟩⟩
  · rw [snapshot?, snapshot?, htrack]
  · exact step_fst_congr h (hconf s) (htrack s).symm
  · have hsweep : ∀ s, ((alone s).sweep now).1 =
        (m.tracks.get s).elim {} (Track.removed conf now) := fun s =>
      sweep_run_filter_fst conf events s now
    simp only [hsweep]
    rw [sweep_fst, conf_run]
    rfl
  · exact step_fst_step_of_ne m h h' hne
  · exact step_fst_step_of_ne m h' h hne.symm
  · exact step_snd_comm m h h' hne

/-- Two systems are heard one after the other, and the next frames of both can come in either order.
The reply to the first system is the one that it would get alone. -/
theorem isolated_run_twoSystems :
    let m := (new {}).run [.frame (Sample.frame 1 7) "udp" 0, .frame (Sample.frame 2 9) "udp" 1]
    let e := Event.frame (Sample.frame 1 9) "udp" 2
    let e' := Event.frame (Sample.frame 2 9) "tcp" 3
    (m.step e).1 = (((new {}).run [.frame (Sample.frame 1 7) "udp" 0]).step e).1 ∧
      ((m.step e).2.step e').2 = ((m.step e').2.step e).2 ∧
      (m.step e).1.reports.map Detection.kind = [.gap] ∧
      (m.step e').1.reports.map Detection.kind = [.duplicate, .multiSource] := by
  intro m e e'
  obtain ⟨-, halone, -, -, hcomm⟩ :=
    isolated_run {} [.frame (Sample.frame 1 7) "udp" 0, .frame (Sample.frame 2 9) "udp" 1]
  refine ⟨halone 1 e rfl, ?_, by decide +kernel, by decide +kernel⟩
  exact (hcomm 1 2 e e' (by decide) rfl rfl).2.2

end Monitor

end Mavlink
