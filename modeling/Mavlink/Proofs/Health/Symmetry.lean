import Mathlib.Data.List.Forall2
import Mavlink.Proofs.Health.Isolation
import Mavlink.Proofs.Health.Shared
import Mavlink.Proofs.Health.Shift

/-!
# Symmetries of the monitor

The origin of the times that a monitor is given is chosen by its caller, and the sequence number
that a sender starts with is an accident. Neither matters: with all times later by a fixed amount
the monitor says the same, later by that amount, and with all numbers turned by a fixed amount it
says the same of the turned numbers. Only suspicions of restarts depend on the numbers themselves.

## Main results

* `Monitor.isShift_step_snd`, `Monitor.isShift_step_fst`: an event takes monitors that are shifted
  against each other to monitors that are, and gets shifted replies.
* `Monitor.answers_shift`: what shifted monitors return, over whole sequences of calls.
* `Monitor.answers_delay`: the origin of times does not matter.
* `Monitor.answers_turn`: the origin of sequence numbers does not matter.
-/

namespace Mavlink

/-! ### Shifted calls and answers -/

section Shift

variable (σ : Shift)

/-- The event at a later time, with the number of its frame turned. -/
def Monitor.Event.shift : Monitor.Event → Monitor.Event
  | .frame f streamId now => .frame (f.shift σ) streamId (now + σ.delay)
  | .invalid systemId streamId now reason => .invalid systemId streamId (now + σ.delay) reason
  | .sweep now => .sweep (now + σ.delay)

/-- The call with the frame that it brings and the time of the event shifted. -/
def Monitor.Call.shift : Monitor.Call → Monitor.Call
  | .event e => .event (e.shift σ)
  | c => c

/-- What is known about a system, with all sequence numbers and all times shifted. -/
def Snapshot.shift (s : Snapshot) : Snapshot :=
  { s with
    headSequence? := s.headSequence?.map (· + σ.turn)
    headReachedAt? := s.headReachedAt?.map (· + σ.delay)
    lastActivity := s.lastActivity + σ.delay
    sources := s.sources.map (Source.shift σ) }

end Shift

/-- What is known about a system without the count of suspected restarts. -/
def Snapshot.steady (s : Snapshot) : Snapshot :=
  { s with counters := s.counters.steady }

/-- The detection at a later time. -/
def Detection.delay (d : Nat) (x : Detection) : Detection :=
  { x with time := x.time + d }

/-- The detections without suspicions of restarts. -/
def Detection.steady (reports : List Detection) : List Detection :=
  reports.filter fun x => x.kind ≠ .resetSuspected

/-- Two detections report the same, at the same time and on the same stream, but for the sequence
numbers that they quote, which are turned. -/
def Detection.IsTurned (c : UInt8) (x x' : Detection) : Prop :=
  ∃ (finding : Finding) (systemId : UInt8) (streamId : String) (time : Nat),
    x = finding.report systemId streamId time ∧
      x' = (finding.turn c).report systemId streamId time

namespace Monitor

/-- The answer of a monitor for which everything happens later. -/
def Answer.delay (d : Nat) : Answer → Answer
  | .reply (.detections reports) => .reply (.detections (reports.map (Detection.delay d)))
  | .snapshot known? => .snapshot (known?.map (Snapshot.shift { delay := d }))
  | .snapshots known => .snapshots (known.map (Snapshot.shift { delay := d }))
  | answer => answer

/-- Two answers are the same but for the sequence numbers in them, which are turned, and for what
they say of suspected restarts. -/
def Answer.IsTurned (c : UInt8) : Answer → Answer → Prop
  | .reply (.detections reports), .reply (.detections reports') =>
    List.Forall₂ (Detection.IsTurned c) (Detection.steady reports) (Detection.steady reports')
  | .reply (.swept result), .reply (.swept result') => result' = result
  | .snapshot known?, .snapshot known?' =>
    known?'.map Snapshot.steady = known?.map fun s => (s.shift { turn := c }).steady
  | .snapshots known, .snapshots known' =>
    known'.map Snapshot.steady = known.map fun s => (s.shift { turn := c }).steady
  | .size n, .size n' => n' = n
  | .isEmpty b, .isEmpty b' => b' = b
  | _, _ => False

/-- Two answers are shifted against each other. -/
inductive Answer.IsShift (σ : Shift) : Answer → Answer → Prop
  | detections {xs xs' : List Finding} (systemId : UInt8) (streamId : String) (time : Nat)
      (h : σ.Agree Finding.steady (xs.map (Finding.turn σ.turn)) xs') :
      IsShift σ (.reply (.detections (xs.map (Finding.report systemId streamId time))))
        (.reply (.detections (xs'.map (Finding.report systemId streamId (time + σ.delay)))))
  | swept (result : SweepResult) : IsShift σ (.reply (.swept result)) (.reply (.swept result))
  | snapshot {known? known?' : Option Snapshot}
      (h : Option.Rel (fun s s' => σ.Agree Snapshot.steady (s.shift σ) s') known? known?') :
      IsShift σ (.snapshot known?) (.snapshot known?')
  | snapshots {known known' : List Snapshot}
      (h : List.Forall₂ (fun s s' => σ.Agree Snapshot.steady (s.shift σ) s') known known') :
      IsShift σ (.snapshots known) (.snapshots known')
  | size (n : Nat) : IsShift σ (.size n) (.size n)
  | isEmpty (b : Bool) : IsShift σ (.isEmpty b) (.isEmpty b)

/-- If sequence numbers are left alone, nothing but the times is shifted. -/
theorem Answer.IsShift.eq_delay {d : Nat} {answer answer' : Answer}
    (h : IsShift { delay := d } answer answer') : answer' = answer.delay d := by
  cases h with
  | @detections xs xs' systemId streamId time h =>
      have hxs : xs' = xs := (h.eq_of_turn rfl).trans (Finding.map_turn_zero xs)
      rw [hxs, Answer.delay, List.map_map]
      rfl
  | swept result | size n | isEmpty b => rfl
  | snapshot h =>
      cases h with
      | none => rfl
      | some h =>
          rw [h.eq_of_turn rfl]
          rfl
  | snapshots h =>
      have hknown := List.forall₂_map_left_iff.2
        (h.imp fun s s' h => (h.eq_of_turn rfl : s' = s.shift { delay := d }).symm)
      rw [List.forall₂_eq_eq_eq] at hknown
      rw [← hknown]
      rfl

/-- If times are left alone, nothing but sequence numbers and suspected restarts differ. -/
theorem Answer.IsShift.isTurned {c : UInt8} {answer answer' : Answer}
    (h : IsShift { turn := c } answer answer') : answer.IsTurned c answer' := by
  cases h with
  | @detections xs xs' systemId streamId time h =>
      -- Kinds are those of the findings, so the reports of the steady findings are compared.
      have hsteady : ∀ (xs : List Finding) (time : Nat),
          Detection.steady (xs.map (Finding.report systemId streamId time)) =
            (Finding.steady xs).map (Finding.report systemId streamId time) := fun xs time => by
        rw [Detection.steady, List.filter_map]
        rfl
      rw [IsTurned, hsteady, hsteady, h.steady_eq, Finding.steady_map_turn, List.map_map,
        List.forall₂_map_left_iff, List.forall₂_map_right_iff, List.forall₂_same]
      exact fun x _ => ⟨x, systemId, streamId, time, rfl, rfl⟩
  | swept result | size n | isEmpty b => rfl
  | snapshot h =>
      cases h with
      | none => rfl
      | some h => exact congrArg some h.steady_eq
  | snapshots h =>
      have hknown := List.forall₂_map_left_iff.2 (List.forall₂_map_right_iff.2
        (h.imp fun s s' h => h.steady_eq.symm))
      rw [List.forall₂_eq_eq_eq] at hknown
      exact hknown.symm

end Monitor

/-! ### The track of one system -/

namespace Track

variable {σ : Shift}

/-- The tracks that a frame finds are alike, also if its system has not been heard. -/
theorem alike_getD {track? track?' : Option Track} (h : Option.Rel (IsShift σ) track? track?')
    (systemId : UInt8) :
    (track?.getD (new systemId)).Alike σ (track?'.getD (new systemId)) := by
  cases h with
  | none => exact alike_new σ systemId
  | some h => exact h.toAlike

/-- **What becomes of shifted tracks** is shifted. -/
theorem rel_next? {track? track?' : Option Track} (h : Option.Rel (IsShift σ) track? track?')
    (c : MonitorConf) (systemId : UInt8) (e : Event) :
    Option.Rel (IsShift σ) (next? c systemId track? e)
      (next? c systemId track?' (e.shift σ)) := by
  cases e with
  | frame f streamId now =>
      exact .some (isShift_observe (alike_getD h systemId) c.sequence f streamId now).2
  | invalid streamId now reason =>
      cases h with
      | none => exact .none
      | some h => exact .some (isShift_observeInvalid h.toAlike streamId now reason).2
  | sweep now =>
      cases h with
      | none => exact .none
      | some h =>
          simp only [Event.shift, next?, Option.bind_some, swept, h.isExpired_eq]
          split
          · exact .none
          · exact .some (isShift_sweep h c now).2

/-- What is forgotten of shifted tracks is the same. -/
theorem removed_elim_shift {track? track?' : Option Track}
    (h : Option.Rel (IsShift σ) track? track?') (c : MonitorConf) (now : Nat) :
    track?'.elim {} (removed c (now + σ.delay)) = track?.elim {} (removed c now) := by
  cases h with
  | none => rfl
  | some h =>
      simp only [Option.elim_some, removed, h.isExpired_eq, (isShift_sweep h c now).1]

/-- What is detected about a shifted frame is shifted. -/
theorem isShift_detected_frame {track? track?' : Option Track}
    (h : Option.Rel (IsShift σ) track? track?') (c : MonitorConf) (f : Frame) (streamId : String)
    (now : Nat) :
    Monitor.Answer.IsShift σ
      (.reply (.detections (detected c f.systemId track? (.frame f streamId now))))
      (.reply (.detections (detected c f.systemId track?'
        (.frame (f.shift σ) streamId (now + σ.delay))))) := by
  have halike := alike_getD h f.systemId
  have hfindings := (isShift_observe halike c.sequence f streamId now).1
  simp only [detected, detect, halike.systemId_eq]
  exact .detections _ streamId now hfindings

/-- What is detected about a frame that may not be used, at a shifted time, is shifted. -/
theorem isShift_detected_invalid {track? track?' : Option Track}
    (h : Option.Rel (IsShift σ) track? track?') (c : MonitorConf) (systemId : UInt8)
    (streamId : String) (now : Nat) (reason : FailureReason) :
    Monitor.Answer.IsShift σ
      (.reply (.detections (detected c systemId track? (.invalid streamId now reason))))
      (.reply (.detections (detected c systemId track?'
        (.invalid streamId (now + σ.delay) reason)))) := by
  cases h with
  | none => exact @Monitor.Answer.IsShift.detections σ [] [] systemId streamId now (.of_eq rfl)
  | some h =>
      have hfindings := (isShift_observeInvalid h.toAlike streamId now reason).1
      simp only [detected, detect, Option.elim_some, h.systemId_eq]
      exact .detections _ streamId now (.of_eq hfindings)

/-- Tracks that are shifted against each other have snapshots that agree. -/
theorem IsShift.agree_snapshot {t t' : Track} (h : t.IsShift σ t') :
    σ.Agree Snapshot.steady (t.snapshot.shift σ) t'.snapshot := by
  obtain ⟨⟨hsystem, hhead, -, hsources, hcounters⟩, hactivity⟩ := h
  have hvalues : t'.sources.values = t.sources.values.map (Source.shift σ) := by
    rw [hsources, NameMap.values_map]
  constructor
  · simp only [Snapshot.steady, snapshot, Snapshot.shift, hsystem, hhead, hactivity, hvalues,
      hcounters.steady_eq, Option.isSome_map, Option.map_map]
    rfl
  · intro hturn
    simp only [snapshot, Snapshot.shift, hsystem, hhead, hactivity, hvalues,
      hcounters.eq_of_turn hturn, Option.isSome_map, Option.map_map]
    rfl

/-- A system has a snapshot in both monitors or in none, and they agree. -/
theorem rel_snapshot {track? track?' : Option Track}
    (h : Option.Rel (IsShift σ) track? track?') :
    Option.Rel (fun x x' => σ.Agree Snapshot.steady (x.shift σ) x') (track?.map snapshot)
      (track?'.map snapshot) := by
  cases h with
  | none => exact .none
  | some h => exact .some h.agree_snapshot

end Track

/-- Tables that are related slot by slot list related entries. -/
theorem Slots.forall₂_entries {α β : Type} {R : α → β → Prop} {t : Slots α} {t' : Slots β}
    (h : ∀ i, Option.Rel R (t.get i) (t'.get i)) : List.Forall₂ R t.entries t'.entries := by
  rw [entries_eq, entries_eq]
  induction indices with
  | nil => exact .nil
  | cons i is ih =>
      have hi := h i
      generalize hx : t.get i = x, hx' : t'.get i = x' at hi
      cases hi with
      | none =>
          rw [List.filterMap_cons_none hx, List.filterMap_cons_none hx']
          exact ih
      | some hi =>
          rw [List.filterMap_cons_some hx, List.filterMap_cons_some hx']
          exact .cons hi ih

/-! ### All systems -/

namespace Monitor

/-- Two monitors are shifted against each other. -/
structure IsShift (σ : Shift) (m m' : Monitor) : Prop where
  conf_eq : m'.conf = m.conf
  tracks : ∀ s, Option.Rel (Track.IsShift σ) (m.tracks.get s) (m'.tracks.get s)

variable {σ : Shift} {m m' : Monitor}

/-- A new monitor is shifted against itself. -/
theorem isShift_new (σ : Shift) (conf : MonitorConf) : (new conf).IsShift σ (new conf) where
  conf_eq := rfl
  tracks s := by
    rw [new, Slots.get_empty]
    exact .none

/-- A system sees of a shifted event what it sees of the event, shifted. -/
theorem Event.seenBy_shift (σ : Shift) (e : Event) (s : UInt8) :
    (e.shift σ).seenBy s = (e.seenBy s).map (Track.Event.shift σ) := by
  cases e with
  | frame f streamId now =>
      have hsystem : (f.shift σ).systemId = f.systemId := rfl
      rw [shift, seenBy, seenBy, hsystem]
      split <;> rfl
  | invalid systemId streamId now reason =>
      rw [shift, seenBy, seenBy]
      split <;> rfl
  | sweep now => rfl

/-- Monitors are still shifted against each other after an event and the shifted one. -/
theorem isShift_step_snd (h : m.IsShift σ m') (e : Event) :
    (m.step e).2.IsShift σ (m'.step (e.shift σ)).2 where
  conf_eq := by rw [conf_step, conf_step, h.conf_eq]
  tracks s := by
    rw [get_step, get_step, Event.seenBy_shift, h.conf_eq]
    cases e.seenBy s with
    | none => exact h.tracks s
    | some seen => exact Track.rel_next? (h.tracks s) m.conf s seen

/-- **Shifted monitors reply to shifted events in a shifted way.** -/
theorem isShift_step_fst (h : m.IsShift σ m') (e : Event) :
    Answer.IsShift σ (.reply (m.step e).1) (.reply (m'.step (e.shift σ)).1) := by
  cases e with
  | frame f streamId now =>
      rw [Event.shift, step_frame_fst, step_frame_fst, h.conf_eq]
      exact Track.isShift_detected_frame (h.tracks f.systemId) m.conf f streamId now
  | invalid systemId streamId now reason =>
      rw [Event.shift, step_invalid_fst, step_invalid_fst, h.conf_eq]
      exact Track.isShift_detected_invalid (h.tracks systemId) m.conf systemId streamId now reason
  | sweep now =>
      have hresult : (m'.sweep (now + σ.delay)).1 = (m.sweep now).1 := by
        simp only [sweep_fst, h.conf_eq, Track.removed_elim_shift (h.tracks _)]
      rw [Event.shift, step, step]
      dsimp only
      rw [hresult]
      exact .swept _

/-! ### Calls -/

/-- The tracks of shifted monitors are shifted one by one. -/
theorem IsShift.forall₂_entries (h : m.IsShift σ m') :
    List.Forall₂ (Track.IsShift σ) m.tracks.entries m'.tracks.entries :=
  Slots.forall₂_entries h.tracks

/-- Monitors that are shifted against each other know as many systems. -/
theorem IsShift.size_eq (h : m.IsShift σ m') : m'.size = m.size :=
  h.forall₂_entries.length_eq.symm

/-- **Calls to shifted monitors** return shifted answers, and leave shifted monitors. -/
theorem isShift_call (h : m.IsShift σ m') (c : Call) :
    Answer.IsShift σ (m.call c).1 (m'.call (c.shift σ)).1 ∧
      (m.call c).2.IsShift σ (m'.call (c.shift σ)).2 := by
  cases c with
  | event e => exact ⟨isShift_step_fst h e, isShift_step_snd h e⟩
  | snapshot systemId =>
      exact ⟨.snapshot (Track.rel_snapshot (h.tracks systemId)), h⟩
  | snapshots =>
      refine ⟨.snapshots ?_, h⟩
      rw [snapshots, snapshots, List.forall₂_map_left_iff, List.forall₂_map_right_iff]
      exact h.forall₂_entries.imp fun t t' h => h.agree_snapshot
  | size =>
      refine ⟨?_, h⟩
      simp only [Call.shift, call, h.size_eq]
      exact .size _
  | isEmpty =>
      refine ⟨?_, h⟩
      simp only [Call.shift, call, isEmpty, h.size_eq]
      exact .isEmpty _

/-- **Shifted calls** get shifted answers. -/
theorem answers_shift (h : m.IsShift σ m') (calls : List Call) :
    List.Forall₂ (Answer.IsShift σ) (m.answers calls) (m'.answers (calls.map (Call.shift σ))) := by
  induction calls generalizing m m' with
  | nil => exact .nil
  | cons c calls ih =>
      obtain ⟨hanswer, hafter⟩ := isShift_call h c
      exact .cons hanswer (ih hafter)

/-- **The origin of times does not matter.** Whatever calls a monitor gets, in whatever order of
their times, and with all times later by a fixed amount: each call returns the same, later by that
amount. The detections have a later time and are otherwise the same, the sweeps forget as much, and
what is known about systems differs in its times only. -/
theorem answers_delay (conf : MonitorConf) (calls : List Call) (d : Nat) :
    (new conf).answers (calls.map (Call.shift { delay := d })) =
      ((new conf).answers calls).map (Answer.delay d) := by
  have hanswers := answers_shift (isShift_new { delay := d } conf) calls
  have hdelay := List.forall₂_map_left_iff.2 (hanswers.imp fun _ _ h => h.eq_delay.symm)
  rw [List.forall₂_eq_eq_eq] at hdelay
  exact hdelay.symm

/-- **The origin of sequence numbers does not matter.** Whatever calls a monitor gets, and with the
number of every frame turned by a fixed amount, modulo 256: each call returns the same, but for what
is said of suspected restarts. The detections are the same, in the same order, and quote the turned
numbers; the sweeps forget as much; what is known about systems differs in the turned numbers only,
and the counters are the same. -/
theorem answers_turn (conf : MonitorConf) (calls : List Call) (c : UInt8) :
    List.Forall₂ (Answer.IsTurned c) ((new conf).answers calls)
      ((new conf).answers (calls.map (Call.shift { turn := c }))) :=
  (answers_shift (isShift_new { turn := c } conf) calls).imp fun _ _ h => h.isTurned

/-- A sender that starts again at 2 after 120 is suspected of a restart; one that starts again at
102 after 220 is not. -/
example :
    let kinds := fun c : UInt8 => ((new {}).run [.frame (Sample.frame 1 (120 + c)) "udp" 0]).step
      (.frame (Sample.frame 1 (2 + c)) "udp" 5000000000) |>.1.reports.map Detection.kind
    kinds 0 = [.suspiciousBackward, .resetSuspected] ∧ kinds 100 = [.suspiciousBackward] := by
  decide +kernel

end Monitor

end Mavlink
