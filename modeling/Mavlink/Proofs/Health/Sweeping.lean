import Mavlink.Proofs.Health.Forgetting
import Mavlink.Proofs.Health.Isolation

/-!
# Sweeps and what is detected

A sweep forgets sources and takes the mark of the primary one away, and arbitration looks at both.
So a track that is swept differs from one that is not. But nobody can tell the two apart by frames
that may be used, as long as times never decrease and a source outlives its lead: what a sweep
takes away is then worth nothing any more, and a stale mark that is left where it is gives nothing
away, because the frame that would renew it takes the lead anyway.

A frame that may not be used would give it away: it renews the lead of a stream that still bears the
mark, and does not take the lead for one that bears it no more.

## Main results

* `Track.isLedBy_sweep_iff`: a sweep leaves a lead alone that is still worth something.
* `Track.resembles_frame`, `Track.resembles_sweep`: what keeps a track like another one that is not
  swept.
* `Monitor.reactions_eq_filter`: a run with sweeps against the run without them.
* `Monitor.reactions_ignore_sweeps`: when sweeps come does not matter.
-/

namespace Mavlink

namespace Track

open Source (WellKept)

/-! ### Sweeps and the lead -/

section

variable (c : MonitorConf) {t : Track} {now : Nat} {leader : String} {seen : Nat}

/-- A sweep gives nobody the lead. -/
theorem isLedBy_of_sweep (h : (t.sweep c now).2.IsLedBy leader seen) : t.IsLedBy leader seen := by
  obtain ⟨hmark, hseen⟩ := isLedBy_iff.1 h
  rw [mark_of_sweep hmark] at hmark
  exact isLedBy_iff.2 ⟨hmark, lastSeen?_of_sweep now leader hseen⟩

/-- **A sweep leaves a lead alone** that is still worth something, if sources outlive leads. -/
theorem isLedBy_sweep_iff (hlifetime : c.sequence.multiSourceWindow ≤ c.sweep.sourceLifetime)
    (hseen : seenWithin now seen c.sequence.multiSourceWindow = true) :
    (t.sweep c now).2.IsLedBy leader seen ↔ t.IsLedBy leader seen := by
  refine ⟨isLedBy_of_sweep c, ?_⟩
  rintro ⟨s, hs, hmark, rfl⟩
  obtain ⟨hpast, hwithin⟩ := seenWithin_iff.1 hseen
  have hkeeps : s.KeepsMark c now := by
    refine ⟨?_, hpast, by omega⟩
    rintro ⟨-, hsilent⟩
    omega
  have hlasts : t.leadLasts c now = true := leadLasts_iff.2 ⟨leader, s, hs, hmark, hkeeps⟩
  exact ⟨s, get?_sweep_eq_some_iff.2 ⟨s, hs, hkeeps.1, if_pos hlasts⟩, hmark, rfl⟩

end

/-! ### Tracks with and without sweeps -/

/-- From a time on, a track `t` that is swept cannot be told from a track `t'` that is not: they
agree but for their sources, and of these on the leads that are still worth something. -/
structure Resembles (c : SequenceConf) (now : Nat) (t t' : Track) : Prop where
  systemId_eq : t.systemId = t'.systemId
  head?_eq : t.head? = t'.head?
  ring_eq : t.ring = t'.ring
  counters_eq : t.counters = t'.counters
  wellKept : WellKept t.sources
  wellKept' : WellKept t'.sources
  past : ∀ leader seen, t.IsLedBy leader seen → seen ≤ now
  isLedBy_iff : ∀ leader seen, now ≤ seen + c.multiSourceWindow →
    (t.IsLedBy leader seen ↔ t'.IsLedBy leader seen)

/-- A new track resembles itself. -/
theorem resembles_new (c : SequenceConf) (now : Nat) (systemId : UInt8) :
    Resembles c now (new systemId) (new systemId) where
  systemId_eq := rfl
  head?_eq := rfl
  ring_eq := rfl
  counters_eq := rfl
  wellKept := Source.wellKept_empty
  wellKept' := Source.wellKept_empty
  past leader seen := by
    rintro ⟨s, hs, -⟩
    contradiction
  isLedBy_iff leader seen _ := Iff.rfl

section

variable {c : MonitorConf} {now later : Nat} {t t' : Track}

/-- Leads only lose their worth. -/
theorem Resembles.mono (h : Resembles c.sequence now t t') (hle : now ≤ later) :
    Resembles c.sequence later t t' :=
  { h with
    past := fun leader seen hled => Nat.le_trans (h.past leader seen hled) hle
    isLedBy_iff := fun leader seen hseen => h.isLedBy_iff leader seen (Nat.le_trans hle hseen) }

/-- A stream is challenged in both tracks or in none. -/
theorem Resembles.isChallenged_iff (h : Resembles c.sequence now t t') (hle : now ≤ later)
    (streamId : String) :
    t.IsChallenged streamId later c.sequence.multiSourceWindow ↔
      t'.IsChallenged streamId later c.sequence.multiSourceWindow := by
  refine exists_congr fun leader => exists_congr fun seen => and_congr_left fun hrest => ?_
  exact h.isLedBy_iff leader seen (Nat.le_trans hle (seenWithin_iff.1 hrest.2).2)

/-- A frame arrives alike at tracks that resemble each other. -/
theorem Resembles.arrival_eq (h : Resembles c.sequence now t t') (f : Frame) (later : Nat) :
    t.arrival c.sequence f later = t'.arrival c.sequence f later := by
  rw [arrival, arrival, h.ring_eq, h.head?_eq]

/-- Both tracks are challenged by the same leader or by none. So a frame is noticed and counted
alike, and the same stream leads both tracks after it. -/
theorem Resembles.observe (h : Resembles c.sequence now t t') (hle : now ≤ later) (f : Frame)
    (streamId : String) :
    (t.observe c.sequence f streamId later).1 = (t'.observe c.sequence f streamId later).1 ∧
      (t.observe c.sequence f streamId later).2.counters =
        (t'.observe c.sequence f streamId later).2.counters ∧
      ∃ leader seen, seen ≤ later ∧ ∀ leader' seen',
        ((t.observe c.sequence f streamId later).2.IsLedBy leader' seen' ↔
          leader' = leader ∧ seen' = seen) ∧
        ((t'.observe c.sequence f streamId later).2.IsLedBy leader' seen' ↔
          leader' = leader ∧ seen' = seen) := by
  have harrival := h.arrival_eq f later
  by_cases hchallenged : t.IsChallenged streamId later c.sequence.multiSourceWindow
  · obtain ⟨leader, seen, hled, hne, hseen⟩ := hchallenged
    obtain ⟨hpast, hwithin⟩ := seenWithin_iff.1 hseen
    have hled' : t'.IsLedBy leader seen :=
      (h.isLedBy_iff leader seen (Nat.le_trans hle hwithin)).1 hled
    obtain ⟨hfindings, hcounters, hlead⟩ :=
      observe_of_challenged (f := f) h.wellKept hled hne hseen
    obtain ⟨hfindings', hcounters', hlead'⟩ :=
      observe_of_challenged (f := f) h.wellKept' hled' hne hseen
    refine ⟨?_, ?_, leader, seen, hpast, fun _ _ => ⟨hlead _ _, hlead' _ _⟩⟩
    · rw [hfindings, hfindings', harrival]
    · rw [hcounters, hcounters', harrival, h.counters_eq]
  · have hchallenged' := mt (h.isChallenged_iff hle streamId).2 hchallenged
    obtain ⟨hfindings, hcounters, hlead⟩ :=
      observe_of_not_challenged (f := f) h.wellKept hchallenged
    obtain ⟨hfindings', hcounters', hlead'⟩ :=
      observe_of_not_challenged (f := f) h.wellKept' hchallenged'
    refine ⟨?_, ?_, streamId, later, Nat.le_refl later, fun _ _ => ⟨hlead _ _, hlead' _ _⟩⟩
    · rw [hfindings, hfindings', harrival]
    · rw [hcounters, hcounters', harrival, h.counters_eq]

/-- **A frame that may be used** is answered alike, and leaves the tracks alike. -/
theorem resembles_frame (h : Resembles c.sequence now t t') (hle : now ≤ later) (f : Frame)
    (streamId : String) :
    (t.step c (.frame f streamId later)).1 = (t'.step c (.frame f streamId later)).1 ∧
      Resembles c.sequence later (t.step c (.frame f streamId later)).2
        (t'.step c (.frame f streamId later)).2 := by
  obtain ⟨hfindings, hcounters, leader, seen, hpast, hlead⟩ := h.observe hle f streamId
  have hring : (t.observe c.sequence f streamId later).2.ring =
      (t'.observe c.sequence f streamId later).2.ring := by
    rw [ring_observe, ring_observe, h.ring_eq]
  exact ⟨hfindings, {
    systemId_eq := by rw [systemId_step, systemId_step, h.systemId_eq]
    head?_eq := by rw [head?_step_frame, head?_step_frame, h.arrival_eq f later, h.head?_eq]
    ring_eq := hring
    counters_eq := hcounters
    wellKept := wellKept_observe h.wellKept streamId later c.sequence f
    wellKept' := wellKept_observe h.wellKept' streamId later c.sequence f
    past := fun leader' seen' hled => by
      obtain ⟨-, rfl⟩ := (hlead leader' seen').1.1 hled
      exact hpast
    isLedBy_iff := fun leader' seen' _ =>
      (hlead leader' seen').1.trans (hlead leader' seen').2.symm }⟩

/-- **A sweep of one track** leaves the tracks alike. -/
theorem resembles_sweep (hlifetime : c.sequence.multiSourceWindow ≤ c.sweep.sourceLifetime)
    (h : Resembles c.sequence now t t') (hle : now ≤ later) :
    Resembles c.sequence later (t.step c (.sweep later)).2 t' :=
  { h.mono hle with
    wellKept := wellKept_sweep h.wellKept later c
    past := fun leader seen hled =>
      Nat.le_trans (h.past leader seen (isLedBy_of_sweep c hled)) hle
    isLedBy_iff := fun leader seen hseen => by
      rw [← h.isLedBy_iff leader seen (Nat.le_trans hle hseen)]
      refine ⟨isLedBy_of_sweep c, fun hled => ?_⟩
      have hpast := Nat.le_trans (h.past leader seen hled) hle
      exact (isLedBy_sweep_iff c hlifetime (seenWithin_iff.2 ⟨hpast, hseen⟩)).2 hled }

end

end Track

/-! ### Runs with and without sweeps -/

namespace Monitor

open Track (Resembles)

namespace Event

/-- The time of an event. -/
def time : Event → Nat
  | .frame _ _ now | .invalid _ _ now _ | .sweep now => now

/-- Whether an event brings a frame that may be used. -/
def isFrame : Event → Bool
  | .frame _ _ _ => true
  | .invalid _ _ _ _ | .sweep _ => false

/-- Whether an event is a sweep. -/
def isSweep : Event → Bool
  | .sweep _ => true
  | .frame _ _ _ | .invalid _ _ _ _ => false

end Event

/-- No event of a run forgets a system. -/
def KeepsSystem (s : UInt8) (m : Monitor) : List Event → Prop
  | [] => True
  | e :: events =>
    ((m.tracks.get s).isSome → ((m.step e).2.tracks.get s).isSome) ∧
      KeepsSystem s (m.step e).2 events

instance decidableKeepsSystem (s : UInt8) (m : Monitor) (events : List Event) :
    Decidable (m.KeepsSystem s events) :=
  match events with
  | [] => .isTrue trivial
  | e :: events =>
    have := decidableKeepsSystem s (m.step e).2 events
    inferInstanceAs (Decidable (_ ∧ _))

/-- A run of frames that may be used and of sweeps, in the order of their times, in which a system
is never forgotten. -/
structure IsOrderly (s : UInt8) (m : Monitor) (events : List Event) : Prop where
  usable : ∀ e ∈ events, e.isFrame || e.isSweep
  ordered : (events.map Event.time).Pairwise (· ≤ ·)
  keeps : m.KeepsSystem s events

/-- How a run reacts to the calls that are addressed to a system: the reply to each of them, and the
head and the counters of the system after it. -/
def reactions (s : UInt8) (m : Monitor) :
    List Event → List (Reply × Option (Option Head × Counters))
  | [] => []
  | e :: events =>
    if e.systemId? = some s then
      ((m.step e).1, (m.step e).2.standing s) :: reactions s (m.step e).2 events
    else reactions s (m.step e).2 events

/-- From a time on, a monitor that is swept cannot be told by frames of a system from one that is
not. -/
structure Follows (s : UInt8) (now : Nat) (m m' : Monitor) : Prop where
  conf_eq : m.conf = m'.conf
  tracks : Option.Rel (Resembles m.conf.sequence now) (m.tracks.get s) (m'.tracks.get s)

section

variable {s : UInt8} {now later : Nat} {m m' : Monitor}

/-- Either both monitors know the system, or none does. -/
theorem Follows.get_cases (h : m.Follows s now m') :
    (m.tracks.get s = none ∧ m'.tracks.get s = none) ∨
      ∃ t t', m.tracks.get s = some t ∧ m'.tracks.get s = some t' ∧
        Resembles m.conf.sequence now t t' := by
  have htracks := h.tracks
  generalize m.tracks.get s = track?, m'.tracks.get s = track?' at htracks
  cases htracks with
  | none => exact .inl ⟨rfl, rfl⟩
  | @some t t' h => exact .inr ⟨t, t', rfl, rfl, h⟩

/-- The tracks that a frame of the system finds resemble each other. -/
theorem Follows.track_resembles (h : m.Follows s now m') :
    Resembles m.conf.sequence now (m.track s) (m'.track s) := by
  rw [Monitor.track, Monitor.track]
  obtain ⟨hget, hget'⟩ | ⟨t, t', hget, hget', h⟩ := h.get_cases
  · rw [hget, hget']
    exact Track.resembles_new _ now s
  · rw [hget, hget']
    exact h

/-- The system has one standing with both monitors. -/
theorem Follows.standing_eq (h : m.Follows s now m') : m.standing s = m'.standing s := by
  rw [standing, standing]
  obtain ⟨hget, hget'⟩ | ⟨t, t', hget, hget', h⟩ := h.get_cases
  · rw [hget, hget']
  · rw [hget, hget', Option.map_some, Option.map_some, h.head?_eq, h.counters_eq]

/-- A frame of the system is answered alike. -/
theorem Follows.reply_frame (h : m.Follows s now m') (hle : now ≤ later) {f : Frame}
    (hsystem : f.systemId = s) (streamId : String) :
    (m.step (.frame f streamId later)).1 = (m'.step (.frame f streamId later)).1 := by
  subst hsystem
  obtain ⟨hfindings, -⟩ := Track.resembles_frame h.track_resembles hle f streamId
  rw [step_frame_fst_eq_detect, step_frame_fst_eq_detect, ← h.conf_eq, Track.detect, Track.detect,
    hfindings, h.track_resembles.systemId_eq]

/-- A frame of any system leaves the monitors alike. -/
theorem Follows.frame (h : m.Follows s now m') (hle : now ≤ later) (f : Frame)
    (streamId : String) :
    (m.step (.frame f streamId later)).2.Follows s later
      (m'.step (.frame f streamId later)).2 where
  conf_eq := by rw [conf_step, conf_step, h.conf_eq]
  tracks := by
    rw [conf_step]
    by_cases hsame : f.systemId = s
    · subst hsame
      rw [get_step_frame, get_step_frame, ← h.conf_eq]
      exact .some (Track.resembles_frame h.track_resembles hle f streamId).2
    · rw [get_step_of_ne m rfl hsame, get_step_of_ne m' rfl hsame]
      obtain ⟨hget, hget'⟩ | ⟨t, t', hget, hget', h⟩ := h.get_cases
      · rw [hget, hget']
        exact .none
      · rw [hget, hget']
        exact .some (h.mono hle)

/-- A sweep of the first monitor that does not forget the system leaves the monitors alike. -/
theorem Follows.sweep
    (hlifetime : m.conf.sequence.multiSourceWindow ≤ m.conf.sweep.sourceLifetime)
    (h : m.Follows s now m') (hle : now ≤ later)
    (hkeeps : (m.tracks.get s).isSome → ((m.step (.sweep later)).2.tracks.get s).isSome) :
    (m.step (.sweep later)).2.Follows s later m' where
  conf_eq := by rw [conf_step, h.conf_eq]
  tracks := by
    have hswept : (m.step (.sweep later)).2.tracks.get s =
        (m.tracks.get s).bind (Track.swept m.conf later) := get_sweep m later s
    rw [conf_step, hswept]
    rw [hswept] at hkeeps
    obtain ⟨hget, hget'⟩ | ⟨t, t', hget, hget', h⟩ := h.get_cases
    · rw [hget, hget']
      exact .none
    · rw [hget, Option.bind_some, Track.swept] at hkeeps ⊢
      by_cases hexpired : t.isExpired m.conf.sweep later = true
      · rw [if_pos hexpired] at hkeeps
        exact absurd (hkeeps rfl) Bool.false_ne_true
      · rw [if_neg hexpired, hget']
        exact .some (Track.resembles_sweep hlifetime h hle)

/-- **A run with sweeps reacts like the run without them.** -/
theorem reactions_eq_filter
    (hlifetime : m.conf.sequence.multiSourceWindow ≤ m.conf.sweep.sourceLifetime)
    (h : m.Follows s now m') {events : List Event} (horderly : m.IsOrderly s events)
    (hpast : ∀ e ∈ events, now ≤ e.time) :
    m.reactions s events = m'.reactions s (events.filter fun e => !e.isSweep) ∧
      (m.run events).standing s = (m'.run (events.filter fun e => !e.isSweep)).standing s := by
  induction events generalizing now m m' with
  | nil => exact ⟨rfl, h.standing_eq⟩
  | cons e events ih =>
      obtain ⟨husable, hordered, hkeep, hkeeps⟩ := horderly
      obtain ⟨hlater, hordered⟩ := List.pairwise_cons.1 hordered
      have hrest : (m.step e).2.IsOrderly s events :=
        ⟨fun e he => husable e (List.mem_cons_of_mem _ he), hordered, hkeeps⟩
      have hle := hpast e List.mem_cons_self
      have hpast : ∀ e' ∈ events, e.time ≤ e'.time := fun e' he =>
        hlater _ (List.mem_map_of_mem he)
      rw [← conf_step m e] at hlifetime
      cases e with
      | frame f streamId later =>
          have hle : now ≤ later := hle
          have hnext := h.frame hle f streamId
          obtain ⟨hreactions, hstanding⟩ := ih hlifetime hnext hrest hpast
          have hkept : (Event.frame f streamId later :: events).filter (fun e => !e.isSweep) =
              .frame f streamId later :: events.filter fun e => !e.isSweep := rfl
          rw [hkept]
          refine ⟨?_, hstanding⟩
          rw [reactions, reactions, hreactions, hnext.standing_eq]
          by_cases hsame : f.systemId = s
          · rw [h.reply_frame hle hsame streamId]
          · have hother : (Event.frame f streamId later).systemId? ≠ some s := fun heq =>
              hsame (Option.some.inj heq)
            rw [if_neg hother, if_neg hother]
      | invalid systemId streamId later reason =>
          exact absurd (husable _ List.mem_cons_self) Bool.false_ne_true
      | sweep later =>
          exact ih hlifetime (h.sweep (conf_step m _ ▸ hlifetime) hle hkeep) hrest hpast

end

/-- **When sweeps come does not matter.** Of two runs with the same frames, that may all be used,
and with any sweeps between them, both react alike to the frames of a system, and the head and the
counters of the system are the same in the end. Times never decrease in either run, no sweep forgets
the system, and sources outlive their leads. -/
theorem reactions_ignore_sweeps {conf : MonitorConf}
    (hlifetime : conf.sequence.multiSourceWindow ≤ conf.sweep.sourceLifetime) {s : UInt8}
    {events events' : List Event} (horderly : (new conf).IsOrderly s events)
    (horderly' : (new conf).IsOrderly s events')
    (hframes : events.filter (fun e => !e.isSweep) = events'.filter fun e => !e.isSweep) :
    (new conf).reactions s events = (new conf).reactions s events' ∧
      ((new conf).run events).standing s = ((new conf).run events').standing s := by
  -- Both are compared with the run in which there are no sweeps at all.
  have hfollows : (new conf).Follows s 0 (new conf) := ⟨rfl, get_new conf s ▸ .none⟩
  obtain ⟨hreactions, hstanding⟩ :=
    reactions_eq_filter hlifetime hfollows horderly fun e _ => Nat.zero_le e.time
  obtain ⟨hreactions', hstanding'⟩ :=
    reactions_eq_filter hlifetime hfollows horderly' fun e _ => Nat.zero_le e.time
  exact ⟨by rw [hreactions, hreactions', hframes], by rw [hstanding, hstanding', hframes]⟩

/-- The stream that leads falls silent. A sweep forgets it in one run and not in the other, but in
both another stream takes the lead, and the old one is reported when it is heard again. -/
theorem reactions_ignore_sweeps_leadTaken :
    let frames : List Event :=
      [.frame (Sample.frame 1 8) "tcp" 71000000000, .frame (Sample.frame 1 9) "udp" 72000000000]
    let swept := Event.frame (Sample.frame 1 7) "udp" 0 :: .sweep 70000000000 :: frames
    let unswept := Event.frame (Sample.frame 1 7) "udp" 0 :: frames
    (new {}).reactions 1 swept = (new {}).reactions 1 unswept ∧
      ((new {}).reactions 1 swept).map (fun r => r.1.reports.map Detection.kind) =
        [[], [], [.multiSource]] ∧
      (((new {}).run (swept.take 2)).snapshot? 1).map Snapshot.sources = some [] := by
  intro frames swept unswept
  have horderly : (new {}).IsOrderly 1 swept := ⟨by decide, by decide, by decide +kernel⟩
  have horderly' : (new {}).IsOrderly 1 unswept := ⟨by decide, by decide, by decide +kernel⟩
  refine ⟨(reactions_ignore_sweeps (by decide) horderly horderly' rfl).1, ?_, ?_⟩
  · decide +kernel
  · decide +kernel

/-- With a frame that may not be used, it would matter: the frame renews a lead that has lost its
worth, unless a sweep has taken it away. -/
example :
    let before : List Event := [.frame (Sample.frame 1 7) "udp" 0]
    let after : List Event :=
      [.invalid 1 "udp" 3000000000 .crcFailed, .frame (Sample.frame 1 8) "tcp" 3000000000]
    ((new {}).reactions 1 (before ++ after)).map (fun r => r.1.reports.map Detection.kind) =
        [[], [.frameInvalid], [.multiSource]] ∧
      ((new {}).reactions 1 (before ++ .sweep 3000000000 :: after)).map
        (fun r => r.1.reports.map Detection.kind) = [[], [.frameInvalid], []] := by
  decide +kernel

end Monitor

end Mavlink
