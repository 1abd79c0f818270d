import Mavlink.Proofs.Health.Shared

/-!
# Well-formed tracks

The primary source of a system is found by looking for one that bears the mark, so at most one may
bear it. This is kept up by three operations that do not know of each other: a stream is heard, a
new primary one is chosen, and a sweep takes the mark away. None of them relies on times that never
decrease. The other parts of a track are tied together as well: the ring with the sequence numbers,
the head with the ring, and the sources with the names of their streams.

## Main results

* `Source.WellKept.inherit`: what keeps the sources in order.
* `Track.isCoherent_step`, `Track.isCoherent_run`: events keep a track in order.
* `Track.hasOnePrimary_observe`: after a frame exactly one source is primary, and it is active.
* `Monitor.wellFormed_of_reaches`: all of this for the monitors that can be reached.
-/

namespace Mavlink

/-! ### Sources and their marks -/

namespace Source

/-- Two states of a source are of one stream and bear the same mark. -/
structure Alike (s s' : Source) : Prop where
  streamId_eq : s'.streamId = s.streamId
  isPrimary_eq : s'.isPrimary = s.isPrimary
  primarySince?_eq : s'.primarySince? = s.primarySince?

/-- The sources of a system are in order: each is stored under its own stream, at most one of them
is primary, and it is known since when. -/
structure WellKept (sources : NameMap Source) : Prop where
  stored : ∀ name s, sources.get? name = some s → s.streamId = name
  unique : ∀ name name' s s', sources.get? name = some s → sources.get? name' = some s' →
    s.isPrimary = true → s'.isPrimary = true → name = name'
  since : ∀ name s, sources.get? name = some s → s.primarySince?.isSome = s.isPrimary

/-- No sources are in order. -/
theorem wellKept_empty : WellKept ∅ where
  stored name s h := by contradiction
  unique name name' s s' h := by contradiction
  since name s h := by contradiction

/-- **What keeps the sources in order**: every source is like the one that was at its name, or like
a new one. -/
theorem WellKept.inherit {sources sources' : NameMap Source} (h : WellKept sources)
    (hfrom : ∀ name s', sources'.get? name = some s' →
      (∃ s, sources.get? name = some s ∧ s.Alike s') ∨ (Source.new name 0).Alike s') :
    WellKept sources' where
  stored name s' hs' := by
    obtain ⟨s, hs, halike⟩ | halike := hfrom name s' hs'
    · exact halike.streamId_eq.trans (h.stored name s hs)
    · exact halike.streamId_eq
  unique name name' s₁' s₂' hs₁' hs₂' hprimary₁ hprimary₂ := by
    obtain ⟨s₁, hs₁, halike₁⟩ | halike₁ := hfrom name s₁' hs₁'
    · obtain ⟨s₂, hs₂, halike₂⟩ | halike₂ := hfrom name' s₂' hs₂'
      · exact h.unique name name' s₁ s₂ hs₁ hs₂ (halike₁.isPrimary_eq ▸ hprimary₁)
          (halike₂.isPrimary_eq ▸ hprimary₂)
      · exact absurd (halike₂.isPrimary_eq.symm.trans hprimary₂) Bool.false_ne_true
    · exact absurd (halike₁.isPrimary_eq.symm.trans hprimary₁) Bool.false_ne_true
  since name s' hs' := by
    obtain ⟨s, hs, halike⟩ | halike := hfrom name s' hs'
    · rw [halike.primarySince?_eq, halike.isPrimary_eq, h.since name s hs]
    · rw [halike.primarySince?_eq, halike.isPrimary_eq]
      rfl

/-- Dropping sources keeps the others in order. -/
theorem WellKept.filter {sources : NameMap Source} (h : WellKept sources) (p : Source → Bool) :
    WellKept (sources.filter p) := by
  refine h.inherit fun name s hs => .inl ⟨s, ?_, rfl, rfl, rfl⟩
  rw [NameMap.get?_filter] at hs
  exact (Option.filter_eq_some_iff.1 hs).1

/-- Taking the mark away makes every source look like a new one. -/
theorem WellKept.demote {sources : NameMap Source} (h : WellKept sources) :
    WellKept (sources.map fun _ s => s.demote) := by
  refine h.inherit fun name s' hs' => .inr ?_
  rw [NameMap.get?_map] at hs'
  obtain ⟨s, hs, rfl⟩ := Option.map_eq_some_iff.1 hs'
  exact ⟨h.stored name s hs, rfl, rfl⟩

end Source

namespace Track

open Source (WellKept)

/-! ### What keeps the sources of a track in order -/

section Sources

variable {t : Track} (h : WellKept t.sources) (streamId : String) (now : Nat)

include h

/-- Hearing a stream keeps the sources in order. -/
theorem wellKept_hear {count : Source → Source} (hcount : ∀ s : Source, s.Alike (count s)) :
    WellKept (t.hear streamId now count).sources := by
  refine h.inherit fun name s' hs' => ?_
  simp only [hear, NameMap.get?_insert] at hs'
  split at hs'
  · next hname =>
      subst hname
      obtain rfl := Option.some.inj hs'
      cases hs : t.sources.get? name with
      | none =>
          obtain ⟨hstream, hprimary, hsince⟩ := hcount { Source.new name now with lastSeen := now }
          exact .inr ⟨hstream, hprimary, hsince⟩
      | some s =>
          obtain ⟨hstream, hprimary, hsince⟩ := hcount { s with lastSeen := now }
          exact .inl ⟨s, rfl, hstream, hprimary, hsince⟩
  · exact .inl ⟨s', hs', rfl, rfl, rfl⟩

/-- A frame that becomes the head keeps the sources in order. -/
theorem wellKept_accept (sequence : UInt8) :
    WellKept (t.accept sequence streamId now).sources := by
  refine h.inherit fun name s' hs' => .inl ?_
  simp only [accept, NameMap.get?_modify] at hs'
  split at hs'
  · obtain ⟨s, hs, rfl⟩ := Option.map_eq_some_iff.1 hs'
    exact ⟨s, hs, rfl, rfl, rfl⟩
  · exact ⟨s', hs', rfl, rfl, rfl⟩

/-- What stands at a name after an election: the elected source at its own name only. -/
theorem exists_of_get?_elect {name : String} {s' : Source}
    (hs' : (t.elect streamId now).sources.get? name = some s') :
    ∃ s, t.sources.get? name = some s ∧
      s' = if name = streamId then s.promote now else s.demote := by
  rw [elect, NameMap.get?_map] at hs'
  obtain ⟨s, hs, rfl⟩ := Option.map_eq_some_iff.1 hs'
  rw [h.stored name s hs]
  exact ⟨s, hs, rfl⟩

/-- The elected source bears the mark from now on. -/
theorem get?_elect_self {s : Source} (hs : t.sources.get? streamId = some s) :
    (t.elect streamId now).sources.get? streamId = some (s.promote now) := by
  rw [elect, NameMap.get?_map, hs, Option.map_some, if_pos (h.stored streamId s hs)]

/-- A newly chosen primary source is the only one. -/
theorem wellKept_elect : WellKept (t.elect streamId now).sources where
  stored name s' hs' := by
    obtain ⟨s, hs, rfl⟩ := exists_of_get?_elect h streamId now hs'
    rw [← h.stored name s hs]
    split <;> rfl
  unique name name' s₁' s₂' hs₁' hs₂' hprimary₁ hprimary₂ := by
    have helected : ∀ name s', (t.elect streamId now).sources.get? name = some s' →
        s'.isPrimary = true → name = streamId := by
      intro name s' hs' hprimary
      obtain ⟨s, hs, rfl⟩ := exists_of_get?_elect h streamId now hs'
      split at hprimary
      · assumption
      · contradiction
    exact (helected name s₁' hs₁' hprimary₁).trans (helected name' s₂' hs₂' hprimary₂).symm
  since name s' hs' := by
    obtain ⟨s, hs, rfl⟩ := exists_of_get?_elect h streamId now hs'
    split <;> rfl

/-- Arbitration keeps the sources in order. -/
theorem wellKept_arbitrate (c : SequenceConf) :
    WellKept (t.arbitrate c streamId now).2.sources := by
  obtain ⟨-, heq⟩ | ⟨primary, -, -, heq⟩ | ⟨primary, -, -, heq⟩ :=
    arbitrate_cases c t streamId now
  · rw [heq]
    exact wellKept_elect h streamId now
  · rw [heq]
    exact h
  · rw [heq]
    exact h

/-- Numbering a frame keeps the sources in order. -/
theorem wellKept_numbered (c : SequenceConf) (f : Frame) :
    WellKept (t.numbered c f streamId now).sources := by
  have hheard : WellKept
      (t.hear streamId now fun s => { s with packets := s.packets + 1 }).sources :=
    wellKept_hear h streamId now fun s => ⟨rfl, rfl, rfl⟩
  rw [sources_numbered]
  split
  · exact wellKept_accept hheard streamId now f.sequence
  · exact hheard

/-- Observing a frame keeps the sources in order. -/
theorem wellKept_observe (c : SequenceConf) (f : Frame) :
    WellKept (t.observe c f streamId now).2.sources :=
  wellKept_arbitrate (wellKept_numbered h streamId now c f) streamId now c

/-- A sweep keeps the sources in order. -/
theorem wellKept_sweep (c : MonitorConf) : WellKept (t.sweep c now).2.sources := by
  have hkept := h.filter fun s => !olderThan now s.lastSeen c.sweep.sourceLifetime
  simp only [sweep]
  split
  · exact hkept
  · exact hkept.demote

end Sources

/-! ### The primary source -/

/-- Exactly one source is primary, and it was heard at most `window` before `now`. -/
def HasOnePrimary (t : Track) (now window : Nat) : Prop :=
  ∃ name s, t.sources.get? name = some s ∧
    (∀ name' s', t.sources.get? name' = some s' → (s'.isPrimary = true ↔ name' = name)) ∧
    s.lastSeen ≤ now ∧ now ≤ s.lastSeen + window

/-- A stream over which a frame has just come was last heard now. -/
theorem exists_source_numbered (c : SequenceConf) (t : Track) (f : Frame) (streamId : String)
    (now : Nat) :
    ∃ s, (t.numbered c f streamId now).sources.get? streamId = some s ∧ s.lastSeen = now := by
  let count := fun s : Source => { s with packets := s.packets + 1 }
  let source := (t.sources.get? streamId).getD (Source.new streamId now)
  have hheard : (t.hear streamId now count).sources.get? streamId =
      some (count { source with lastSeen := now }) := by
    rw [hear, NameMap.get?_insert, if_pos rfl]
  rw [sources_numbered]
  by_cases haccepted : (t.arrival c f now).isAccepted = true
  · rw [if_pos haccepted, accept, NameMap.get?_modify, if_pos rfl, hheard]
    exact ⟨_, rfl, rfl⟩
  · rw [if_neg haccepted]
    exact ⟨_, hheard, rfl⟩

/-- A primary source that was heard within the window is the only primary one. -/
theorem hasOnePrimary_of_isPrimary {t : Track} (h : WellKept t.sources) {name : String} {s : Source}
    {now window : Nat} (hs : t.sources.get? name = some s) (hmark : s.isPrimary = true)
    (hseen : s.lastSeen ≤ now ∧ now ≤ s.lastSeen + window) : t.HasOnePrimary now window := by
  refine ⟨name, s, hs, fun name' s' hs' => ⟨fun hmark' => ?_, ?_⟩, hseen⟩
  · exact h.unique name' name s' s hs' hs hmark' hmark
  · rintro rfl
    obtain rfl := Option.some.inj (hs'.symm.trans hs)
    exact hmark

/-- An elected stream that was heard now is the only primary one. -/
theorem hasOnePrimary_elect {t : Track} (h : WellKept t.sources) {streamId : String} {now : Nat}
    (window : Nat) (hheard : ∃ s, t.sources.get? streamId = some s ∧ s.lastSeen = now) :
    (t.elect streamId now).HasOnePrimary now window := by
  obtain ⟨s, hs, rfl⟩ := hheard
  exact hasOnePrimary_of_isPrimary (wellKept_elect h streamId s.lastSeen)
    (get?_elect_self h streamId s.lastSeen hs) rfl ⟨Nat.le_refl _, Nat.le_add_right _ _⟩

/-- An active primary source stands in the track, bears the mark and was heard within the window. -/
theorem exists_of_activePrimary? {t : Track} {now window : Nat} {primary : Source}
    (hprimary : t.activePrimary? now window = some primary) :
    ∃ name, t.sources.get? name = some primary ∧ primary.isPrimary = true ∧
      seenWithin now primary.lastSeen window = true := by
  obtain ⟨name, hname⟩ := NameMap.mem_values_iff.1 (List.mem_of_find?_eq_some hprimary)
  have hactive : primary.isActivePrimary now window = true :=
    List.find?_some (p := fun s : Source => s.isActivePrimary now window) hprimary
  exact ⟨name, hname, Bool.and_eq_true_iff.1 hactive⟩

/-- An active primary source is the only primary one. -/
theorem hasOnePrimary_of_activePrimary?_eq_some {t : Track} (h : WellKept t.sources)
    {now window : Nat} {primary : Source} (hprimary : t.activePrimary? now window = some primary) :
    t.HasOnePrimary now window := by
  obtain ⟨name, hname, hmark, hseen⟩ := exists_of_activePrimary? hprimary
  exact hasOnePrimary_of_isPrimary h hname hmark (seenWithin_iff.1 hseen)

/-- **After a frame there is exactly one primary source**, and it is active. -/
theorem hasOnePrimary_observe {t : Track} (h : WellKept t.sources) (c : SequenceConf) (f : Frame)
    (streamId : String) (now : Nat) :
    (t.observe c f streamId now).2.HasOnePrimary now c.multiSourceWindow := by
  have hkept := wellKept_numbered h streamId now c f
  show ((t.numbered c f streamId now).arbitrate c streamId now).2.HasOnePrimary now _
  obtain ⟨-, heq⟩ | ⟨primary, hactive, -, heq⟩ | ⟨primary, hactive, -, heq⟩ :=
    arbitrate_cases c (t.numbered c f streamId now) streamId now
  · rw [heq]
    exact hasOnePrimary_elect hkept _ (exists_source_numbered c t f streamId now)
  · rw [heq]
    exact hasOnePrimary_of_activePrimary?_eq_some hkept hactive
  · rw [heq]
    exact hasOnePrimary_of_activePrimary?_eq_some hkept hactive

/-! ### Runs of a track -/

/-- The parts of a track agree with each other. -/
structure IsCoherent (t : Track) : Prop where
  /-- Every slot of the ring remembers a frame with its own number. -/
  ring : ∀ sequence last, t.ring.get sequence = some last → last.sequence = sequence
  /-- The frame that is the head is remembered. -/
  head : ∀ head, t.head? = some head → (t.ring.get head.sequence).isSome
  sources : WellKept t.sources

/-- A coherent track with a head. -/
structure IsWellFormed (t : Track) : Prop extends IsCoherent t where
  initialized : t.head?.isSome

/-- A new track is coherent. -/
theorem isCoherent_new (systemId : UInt8) : (new systemId).IsCoherent where
  ring sequence last h := by
    rw [new, Slots.get_empty] at h
    contradiction
  head head h := by contradiction
  sources := Source.wellKept_empty

/-- Observing a frame keeps a track coherent. -/
theorem isCoherent_observe {t : Track} (h : t.IsCoherent) (c : SequenceConf) (f : Frame)
    (streamId : String) (now : Nat) : (t.observe c f streamId now).2.IsCoherent where
  ring sequence last hlast := by
    rw [ring_observe, Slots.get_set] at hlast
    split at hlast
    · next hsame =>
        obtain rfl := Option.some.inj hlast
        exact hsame
    · exact h.ring sequence last hlast
  head head hhead := by
    rw [head?_observe] at hhead
    rw [ring_observe, Slots.get_set]
    by_cases hsame : f.sequence = head.sequence
    · rw [if_pos hsame]
      rfl
    · rw [if_neg hsame]
      split at hhead
      · obtain rfl := Option.some.inj hhead
        exact absurd rfl hsame
      · exact h.head head hhead
  sources := wellKept_observe h.sources streamId now c f

/-- **Every event keeps a track coherent.** -/
theorem isCoherent_step {t : Track} (h : t.IsCoherent) (c : MonitorConf) (e : Event) :
    (t.step c e).2.IsCoherent := by
  cases e with
  | frame f streamId now => exact isCoherent_observe h c.sequence f streamId now
  | invalid streamId now reason =>
      have hheard : WellKept
          (t.hear streamId now fun s => { s with invalid := s.invalid + 1 }).sources :=
        wellKept_hear h.sources streamId now fun s => ⟨rfl, rfl, rfl⟩
      exact ⟨h.ring, h.head, hheard⟩
  | sweep now => exact ⟨h.ring, h.head, wellKept_sweep h.sources now c⟩

/-- **A run keeps a track coherent.** -/
theorem isCoherent_run {t : Track} (h : t.IsCoherent) (c : MonitorConf) (events : List Event) :
    (t.run c events).IsCoherent := by
  induction events generalizing t with
  | nil => exact h
  | cons e events ih => exact ih (isCoherent_step h c e)

/-- No event takes the head away. -/
theorem isSome_head?_step {t : Track} (h : t.head?.isSome) (c : MonitorConf) (e : Event) :
    (t.step c e).2.head?.isSome := by
  cases e with
  | frame f streamId now =>
      rw [head?_step_frame]
      split
      · rfl
      · exact h
  | invalid streamId now reason => exact h
  | sweep now => exact h

/-- No run takes the head away. -/
theorem isSome_head?_run {t : Track} (h : t.head?.isSome) (c : MonitorConf)
    (events : List Event) : (t.run c events).head?.isSome := by
  induction events generalizing t with
  | nil => exact h
  | cons e events ih => exact ih (isSome_head?_step h c e)

/-- **From its first frame on, a track is well formed.** -/
theorem isWellFormed_run (c : MonitorConf) (systemId : UInt8) (f : Frame) (streamId : String)
    (now : Nat) (events : List Event) :
    ((new systemId).run c (.frame f streamId now :: events)).IsWellFormed where
  toIsCoherent := isCoherent_run (isCoherent_new systemId) c _
  initialized := by
    refine isSome_head?_run ?_ c events
    rw [head?_step_frame, arrival_new]
    rfl

end Track

/-! ### Reachable monitors -/

namespace Monitor

/-- The tracks that a monitor, plain or shared, has after some events. -/
inductive Reaches (conf : MonitorConf) : List Event → Slots Track → Prop
  | plain (events : List Event) : Reaches conf events ((new conf).run events).tracks
  | shared {calls : List (SharedMonitor × Event)}
      (hclones : ∀ x ∈ calls, (SharedMonitor.new conf).IsCloneOf x.1) :
      Reaches conf (calls.map Prod.snd) (SharedTracks.empty.run calls).tracks

/-- **A plain monitor has all tracks** that a monitor, plain or shared, can have. -/
theorem Reaches.eq_run {conf : MonitorConf} {events : List Event} {tracks : Slots Track}
    (h : Reaches conf events tracks) : tracks = ((new conf).run events).tracks := by
  cases h with
  | plain => rfl
  | shared hclones =>
      exact congrArg SharedTracks.tracks
        (SharedMonitor.run_share (new conf) fun x hx => (hclones x hx).eq)

/-- One of the events was a frame of the system that may be used. The system was unknown before it
and has been known ever since. -/
def KnownSinceFrame (conf : MonitorConf) (events : List Event) (s : UInt8) : Prop :=
  ∃ before f streamId now later, events = before ++ .frame f streamId now :: later ∧
    f.systemId = s ∧ (∀ tracks, Reaches conf before tracks → tracks.get s = none) ∧
    ∀ middle, middle <+: later → ∀ tracks,
      Reaches conf (before ++ .frame f streamId now :: middle) tracks → (tracks.get s).isSome

/-- A system that is known has a track of its own, which is well formed, and has become known by a
frame. -/
theorem isWellFormed_of_get (conf : MonitorConf) (events : List Event) {s : UInt8} {t : Track}
    (h : ((new conf).run events).tracks.get s = some t) :
    t.systemId = s ∧ t.IsWellFormed ∧ KnownSinceFrame conf events s := by
  have hid := systemId_of_get conf events h
  obtain ⟨before, f, streamId, now, later, hsplit, hsystem, hunknown, hknown, rfl⟩ :=
    exists_first_frame conf events h
  refine ⟨hid, Track.isWellFormed_run conf s f streamId now _, before, f, streamId, now, later,
    hsplit, hsystem, fun tracks hreaches => ?_, fun middle hprefix tracks hreaches => ?_⟩
  · rw [hreaches.eq_run]
    exact hunknown
  · rw [hreaches.eq_run]
    exact hknown middle hprefix

/-- After a frame its system has exactly one primary source, and it is active. -/
theorem hasOnePrimary_run_concat (conf : MonitorConf) (before : List Event) (f : Frame)
    (streamId : String) (now : Nat) :
    ∃ t, ((new conf).run (before ++ [.frame f streamId now])).tracks.get f.systemId = some t ∧
      t.HasOnePrimary now conf.sequence.multiSourceWindow := by
  have hkept : Source.WellKept ((((new conf).run before).tracks.get f.systemId).getD
      (Track.new f.systemId)).sources := by
    cases htrack : ((new conf).run before).tracks.get f.systemId with
    | none => exact Source.wellKept_empty
    | some t => exact (isWellFormed_of_get conf before htrack).2.1.sources
  have hseen : (Event.frame f streamId now).seenBy f.systemId = some (.frame f streamId now) :=
    if_pos rfl
  rw [get_run_concat, hseen]
  exact ⟨_, rfl, Track.hasOnePrimary_observe hkept conf.sequence f streamId now⟩

/-- **Tracks are well formed and have one primary source.** Whatever events a monitor has taken in,
plain or shared, in whatever order of their times:

* every system that is known has become known by a frame that may be used, and its track bears its
  id and is well formed;
* if the last event was a frame that may be used, then its system has exactly one primary source,
  and that source was heard within the window. -/
theorem wellFormed_of_reaches {conf : MonitorConf} {events : List Event} {tracks : Slots Track}
    (h : Reaches conf events tracks) :
    (∀ s t, tracks.get s = some t →
      t.systemId = s ∧ t.IsWellFormed ∧ KnownSinceFrame conf events s) ∧
    (∀ before f streamId now, events = before ++ [.frame f streamId now] →
      ∃ t, tracks.get f.systemId = some t ∧
        t.HasOnePrimary now conf.sequence.multiSourceWindow) := by
  obtain rfl := h.eq_run
  refine ⟨fun s t => isWellFormed_of_get conf events, ?_⟩
  rintro before f streamId now rfl
  exact hasOnePrimary_run_concat conf before f streamId now

/-- The first stream falls silent, the second one becomes primary, and then a frame comes over the
first one at an earlier time: the first stream is the primary one again, and the only one. -/
theorem wellFormed_of_reaches_clockBack :
    let before : List Event :=
      [.frame (Sample.frame 1 7) "udp" 5, .frame (Sample.frame 1 8) "tcp" 3000000000]
    let m := (new {}).run (before ++ [.frame (Sample.frame 1 9) "udp" 6])
    (∃ t, m.tracks.get 1 = some t ∧ t.IsWellFormed ∧ t.HasOnePrimary 6 2000000000) ∧
      (((new {}).run before).snapshot? 1).map (fun s => s.primary?.map Source.streamId) =
        some (some "tcp") ∧
      (m.snapshot? 1).map (fun s => s.primary?.map Source.streamId) = some (some "udp") := by
  intro before m
  obtain ⟨hwell, hprimary⟩ :=
    wellFormed_of_reaches (.plain (before ++ [.frame (Sample.frame 1 9) "udp" 6]) : Reaches {} _ _)
  obtain ⟨t, ht, hone⟩ := hprimary before (Sample.frame 1 9) "udp" 6 rfl
  exact ⟨⟨t, ht, (hwell 1 t ht).2.1, hone⟩, by decide +kernel, by decide +kernel⟩

end Monitor

end Mavlink
