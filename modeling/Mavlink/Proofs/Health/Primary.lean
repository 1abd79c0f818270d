import Mavlink.Proofs.Health.Arbitration

/-!
# How the lead changes hands

A source bears the mark of the primary one together with the time since when it bears it. Of all
that can happen to a track, only a frame that may be used gives the mark to a stream, and only such
a frame and a sweep take it away. A frame takes it away if the stream that bears it has been silent
for longer than the window, counted from anything that came over the stream, usable or not; it does
not matter how long a stream was silent over which the frame itself comes.

## Main results

* `Track.hasPrimary_of_mark`: at most one stream bears the mark.
* `Track.mark_observe`: a frame leaves the marks alone, or gives them to its own stream.
* `Track.lastHeard?_of_lastSeen?`: a source knows when its stream was last heard.
* `Track.exists_takeover`: how a stream loses the lead in a run.
* `Track.arbitrates_run`: all of this after any events.
-/

namespace Mavlink

namespace Track

open Source (WellKept)

/-! ### Marks -/

/-- Whether a stream is the primary one, and since when. A stream without a source is not. -/
def mark (t : Track) (name : String) : Bool × Option Nat :=
  (t.sources.get? name).elim (false, none) fun s => (s.isPrimary, s.primarySince?)

/-- When something last came over a stream, as far as its source knows. -/
def lastSeen? (t : Track) (name : String) : Option Nat :=
  (t.sources.get? name).map Source.lastSeen

/-- A stream is the primary one since a time, and no other stream is. -/
def HasPrimary (t : Track) (streamId : String) (since? : Option Nat) : Prop :=
  ∀ name, t.mark name = if name = streamId then (true, since?) else (false, none)

/-- A frame over a stream leaves the lead alone: the lead is that of its own stream, or it is worth
something. -/
def KeepsLead (t : Track) (streamId : String) (now window : Nat) : Prop :=
  ∃ leader seen, t.IsLedBy leader seen ∧ (leader = streamId ∨ seenWithin now seen window = true)

/-- A stream leads if it bears the mark. -/
theorem isLedBy_iff {t : Track} {name : String} {seen : Nat} :
    t.IsLedBy name seen ↔ (t.mark name).1 = true ∧ t.lastSeen? name = some seen := by
  rw [IsLedBy, mark, lastSeen?]
  cases t.sources.get? name with
  | none => simp
  | some s => simp

/-- A stream that bears the mark leads. -/
theorem exists_isLedBy {t : Track} {name : String} (h : (t.mark name).1 = true) :
    ∃ seen, t.IsLedBy name seen := by
  cases hs : t.sources.get? name with
  | none => simp [mark, hs] at h
  | some s => exact ⟨s.lastSeen, isLedBy_iff.2 ⟨h, by rw [lastSeen?, hs, Option.map_some]⟩⟩

/-- **At most one stream bears the mark.** -/
theorem hasPrimary_of_mark {t : Track} (h : WellKept t.sources) {streamId : String}
    {since? : Option Nat} (hmark : t.mark streamId = (true, since?)) :
    t.HasPrimary streamId since? := by
  intro name
  by_cases hsame : name = streamId
  · rw [if_pos hsame, hsame, hmark]
  · rw [if_neg hsame]
    cases hs : t.sources.get? name with
    | none => rw [mark, hs, Option.elim_none]
    | some s =>
        have hunmarked : s.isPrimary = false := by
          refine Bool.eq_false_iff.2 fun hprimary => hsame ?_
          obtain ⟨seen, hled⟩ := exists_isLedBy (congrArg Prod.fst hmark)
          exact (IsLedBy.unique h ⟨s, hs, hprimary, rfl⟩ hled).1
        have hsince : s.primarySince? = none := by
          rw [← Option.not_isSome_iff_eq_none, h.since name s hs, hunmarked]
          exact Bool.false_ne_true
        rw [mark, hs, Option.elim_some, hunmarked, hsince]

section

variable (t : Track) (streamId : String) (now : Nat)

/-- Hearing a stream does not touch the marks. -/
theorem mark_hear (count : Source → Source) (hcount : ∀ s : Source, s.Alike (count s))
    (name : String) : (t.hear streamId now count).mark name = t.mark name := by
  rw [mark, mark, hear, NameMap.get?_insert]
  by_cases hsame : name = streamId
  · subst hsame
    rw [if_pos rfl, Option.elim_some, (hcount _).isPrimary_eq, (hcount _).primarySince?_eq]
    cases t.sources.get? name with
    | none => rfl
    | some s => rfl
  · rw [if_neg hsame]

/-- A frame that becomes the head leaves the marks alone. -/
theorem mark_accept (sequence : UInt8) (name : String) :
    (t.accept sequence streamId now).mark name = t.mark name := by
  rw [mark, mark, accept, NameMap.get?_modify]
  by_cases hsame : name = streamId
  · rw [if_pos hsame]
    cases t.sources.get? name with
    | none => rfl
    | some s => rfl
  · rw [if_neg hsame]

/-- Numbering a frame does not touch the marks. -/
theorem mark_numbered (c : SequenceConf) (f : Frame) (name : String) :
    (t.numbered c f streamId now).mark name = t.mark name := by
  have hheard : (t.hear streamId now fun s => { s with packets := s.packets + 1 }).mark name =
      t.mark name := by
    refine mark_hear t streamId now _ ?_ name
    exact fun s => ⟨rfl, rfl, rfl⟩
  rw [mark, sources_numbered]
  dsimp only
  split
  · exact (mark_accept _ streamId now f.sequence name).trans hheard
  · exact hheard

end

/-- An elected stream is the primary one from then on, and no other is. -/
theorem hasPrimary_elect {t : Track} (h : WellKept t.sources) {streamId : String} (now : Nat)
    (hheard : ∃ s, t.sources.get? streamId = some s ∧ s.lastSeen = now) :
    (t.elect streamId now).HasPrimary streamId (some now) := by
  obtain ⟨s, hs, -⟩ := hheard
  refine hasPrimary_of_mark (wellKept_elect h streamId now) ?_
  rw [mark, get?_elect_self h streamId now hs]
  rfl

/-! ### Frames -/

section

variable {t : Track} (h : WellKept t.sources) (c : SequenceConf) (f : Frame) (streamId : String)
  (now : Nat)

include h

/-- Arbitration finds an active primary source exactly if the lead is kept. The stream of the frame
has just been heard, so its own lead is always worth something. -/
theorem activePrimary?_numbered_eq_none_iff :
    (t.numbered c f streamId now).activePrimary? now c.multiSourceWindow = none ↔
      ¬ t.KeepsLead streamId now c.multiSourceWindow := by
  have hkept := wellKept_numbered h streamId now c f
  constructor
  · rintro hnone ⟨leader, seen, hled, hworth⟩
    have hstill : ∃ seen', (t.numbered c f streamId now).IsLedBy leader seen' ∧
        seenWithin now seen' c.multiSourceWindow = true := by
      by_cases hsame : leader = streamId
      · subst hsame
        refine ⟨now, ?_, seenWithin_iff.2 ⟨Nat.le_refl now, Nat.le_add_right _ _⟩⟩
        rw [isLedBy_numbered_iff, if_pos rfl]
        exact ⟨rfl, seen, hled⟩
      · refine ⟨seen, ?_, hworth.resolve_left hsame⟩
        rwa [isLedBy_numbered_iff, if_neg hsame]
    obtain ⟨seen', hled', hseen'⟩ := hstill
    obtain ⟨primary, hprimary, -⟩ := exists_activePrimary? hkept hled' hseen'
    rw [hnone] at hprimary
    contradiction
  · intro hlost
    refine Option.eq_none_iff_forall_ne_some.2 fun primary hprimary => hlost ?_
    obtain ⟨hled, hseen⟩ := isLedBy_of_activePrimary? hkept hprimary
    rw [isLedBy_numbered_iff] at hled
    split at hled
    · next hsame =>
        obtain ⟨-, seen, hled⟩ := hled
        exact ⟨streamId, seen, hled, .inl rfl⟩
    · exact ⟨_, _, hled, .inr hseen⟩

/-- **A frame leaves the marks alone**, or gives the mark to its own stream. -/
theorem mark_observe :
    (t.KeepsLead streamId now c.multiSourceWindow ∧
      ∀ name, (t.observe c f streamId now).2.mark name = t.mark name) ∨
    (¬ t.KeepsLead streamId now c.multiSourceWindow ∧
      (t.observe c f streamId now).2.HasPrimary streamId (some now)) := by
  have hkept := wellKept_numbered h streamId now c f
  have hnone := activePrimary?_numbered_eq_none_iff h c f streamId now
  rw [observe_eq]
  obtain ⟨hprimary, heq⟩ | ⟨primary, hprimary, -, heq⟩ | ⟨primary, hprimary, -, heq⟩ :=
    arbitrate_cases c (t.numbered c f streamId now) streamId now
  · rw [heq]
    exact .inr ⟨hnone.1 hprimary,
      hasPrimary_elect hkept now (exists_source_numbered c t f streamId now)⟩
  · rw [heq]
    have hlead := mt hnone.2 (by rw [hprimary]; exact Option.some_ne_none primary)
    exact .inl ⟨not_not.1 hlead, mark_numbered t streamId now c f⟩
  · rw [heq]
    have hlead := mt hnone.2 (by rw [hprimary]; exact Option.some_ne_none primary)
    exact .inl ⟨not_not.1 hlead, mark_numbered t streamId now c f⟩

end

/-- The reports of an event that are about the streams of its system. -/
def rivalReports (c : MonitorConf) (t : Track) (e : Event) : List Detection :=
  (t.detect c e).filter fun d => d.kind = .multiSource

/-- What the sequence number of a frame says is not about streams. -/
theorem filter_findings_eq_nil (a : Arrival) (sequence : UInt8) :
    (a.findings sequence).filter (fun x => x.kind = .multiSource) = [] := by
  cases a with
  | first | duplicate | conflict previousStream | late back => rfl
  | ahead lost =>
      rw [Arrival.findings]
      split <;> rfl
  | backward back alarming restartedFrom? => cases restartedFrom? <;> rfl

/-- Of what is found about a frame, the reports about streams are those that arbitration adds. -/
theorem rivalReports_of_findings {c : MonitorConf} {t : Track} {f : Frame} {streamId : String}
    {now : Nat} (leaders : List String)
    (h : (t.observe c.sequence f streamId now).1 =
      (t.arrival c.sequence f now).findings f.sequence ++ leaders.map .multiSource) :
    t.rivalReports c (.frame f streamId now) =
      leaders.map fun leader => Finding.report t.systemId streamId now (.multiSource leader) := by
  have hfound : (t.observe c.sequence f streamId now).1.filter (fun x => x.kind = .multiSource) =
      leaders.map Finding.multiSource := by
    rw [h, List.filter_append, filter_findings_eq_nil, List.nil_append, List.filter_eq_self]
    intro x hx
    obtain ⟨leader, -, rfl⟩ := List.mem_map.1 hx
    rfl
  calc t.rivalReports c (.frame f streamId now)
      = ((t.observe c.sequence f streamId now).1.filter fun x => x.kind = .multiSource).map
          (Finding.report t.systemId streamId now) := List.filter_map
    _ = leaders.map fun leader =>
          Finding.report t.systemId streamId now (.multiSource leader) := by
        rw [hfound, List.map_map]
        rfl

/-- A frame over a stream that is not challenged reports no rival. -/
theorem rivalReports_of_not_challenged {c : MonitorConf} {t : Track} (h : WellKept t.sources)
    (f : Frame) {streamId : String} {now : Nat}
    (hfree : ¬ t.IsChallenged streamId now c.sequence.multiSourceWindow) :
    t.rivalReports c (.frame f streamId now) = [] := by
  refine rivalReports_of_findings [] ?_
  rw [(observe_of_not_challenged h hfree).1, List.map_nil, List.append_nil]

/-- A lead that a frame leaves alone is held since the same time. -/
theorem hasPrimary_of_keepsLead {c : SequenceConf} {t : Track} (h : WellKept t.sources) (f : Frame)
    {streamId : String} {now : Nat} (hlead : t.KeepsLead streamId now c.multiSourceWindow)
    {p : String} {since? : Option Nat} (hmark : t.mark p = (true, since?)) :
    (t.observe c f streamId now).2.HasPrimary p since? := by
  obtain ⟨-, hmarks⟩ | ⟨hlost, -⟩ := mark_observe h c f streamId now
  · exact hasPrimary_of_mark (wellKept_observe h streamId now c f) ((hmarks p).trans hmark)
  · exact absurd hlead hlost

/-- **How a frame over a stream is arbitrated**, with the reports about streams that it yields and
the track after it. Whatever is the case, it is one of the three. -/
structure Arbitrates (c : SequenceConf) (t : Track) (streamId : String) (now : Nat)
    (reports : List Detection) (t' : Track) : Prop where
  /-- Another stream is primary and was heard within the window: it is named and stays primary. -/
  rival : ∀ p since? seen, p ≠ streamId → t.mark p = (true, since?) → t.lastSeen? p = some seen →
    seen ≤ now → now - seen ≤ c.multiSourceWindow →
      reports = [Finding.report t.systemId streamId now (.multiSource p)] ∧ t'.HasPrimary p since?
  /-- The stream itself is primary: it stays so, however long it was silent. -/
  own : ∀ since?, t.mark streamId = (true, since?) → reports = [] ∧ t'.HasPrimary streamId since?
  /-- Another stream is primary, but not heard within the window, or none is: the stream takes the
  lead. -/
  vacant : (∀ p since? seen, t.mark p = (true, since?) → t.lastSeen? p = some seen →
      p ≠ streamId ∧ ¬ (seen ≤ now ∧ now - seen ≤ c.multiSourceWindow)) →
    reports = [] ∧ t'.HasPrimary streamId (some now)

/-- Every frame is arbitrated so. -/
theorem arbitrates_frame {t : Track} (h : WellKept t.sources) (c : MonitorConf) (f : Frame)
    (streamId : String) (now : Nat) :
    Arbitrates c.sequence t streamId now (t.rivalReports c (.frame f streamId now))
      (t.step c (.frame f streamId now)).2 := by
  constructor
  case rival =>
    intro p since? seen hne hmark hlast hpast hwithin
    have hled : t.IsLedBy p seen := isLedBy_iff.2 ⟨congrArg Prod.fst hmark, hlast⟩
    have hseen : seenWithin now seen c.sequence.multiSourceWindow = true :=
      seenWithin_iff.2 ⟨hpast, by omega⟩
    refine ⟨?_, hasPrimary_of_keepsLead h f ⟨p, seen, hled, .inr hseen⟩ hmark⟩
    exact rivalReports_of_findings [p] (observe_of_challenged h hled hne hseen).1
  case own =>
    intro since? hmark
    obtain ⟨seen, hled⟩ := exists_isLedBy (congrArg Prod.fst hmark)
    refine ⟨rivalReports_of_not_challenged h f ?_,
      hasPrimary_of_keepsLead h f ⟨streamId, seen, hled, .inl rfl⟩ hmark⟩
    rintro ⟨leader, seen', hled', hne, -⟩
    exact hne (hled'.unique h hled).1
  case vacant =>
    intro hvacant
    have hlost : ¬ t.KeepsLead streamId now c.sequence.multiSourceWindow := by
      rintro ⟨leader, seen, hled, hworth⟩
      obtain ⟨hmark, hlast⟩ := isLedBy_iff.1 hled
      obtain ⟨hne, hidle⟩ := hvacant leader _ seen (Prod.ext hmark rfl) hlast
      obtain ⟨hpast, hwithin⟩ := seenWithin_iff.1 (hworth.resolve_left hne)
      exact hidle ⟨hpast, by omega⟩
    refine ⟨rivalReports_of_not_challenged h f ?_, ?_⟩
    · rintro ⟨leader, seen, hled, -, hseen⟩
      exact hlost ⟨leader, seen, hled, .inr hseen⟩
    · exact ((mark_observe h c.sequence f streamId now).resolve_left fun hkeep =>
        hlost hkeep.1).2

/-! ### Sweeps -/

/-- Of the sources that a sweep keeps, one bears the mark and was heard within the window. -/
def leadLasts (c : MonitorConf) (t : Track) (now : Nat) : Bool :=
  (t.sources.filter fun s => !olderThan now s.lastSeen c.sweep.sourceLifetime).values.any fun s =>
    s.isActivePrimary now c.sequence.multiSourceWindow

/-- **What a sweep leaves of a stream**: its source if it has not been silent too long, and the mark
if the lead lasts. -/
theorem get?_sweep (c : MonitorConf) (t : Track) (now : Nat) (name : String) :
    (t.sweep c now).2.sources.get? name =
      ((t.sources.get? name).filter fun s => !olderThan now s.lastSeen c.sweep.sourceLifetime).map
        fun s => if t.leadLasts c now then s else s.demote := by
  have hsources : (t.sweep c now).2.sources =
      if t.leadLasts c now then
        t.sources.filter fun s => !olderThan now s.lastSeen c.sweep.sourceLifetime
      else
        (t.sources.filter fun s => !olderThan now s.lastSeen c.sweep.sourceLifetime).map
          fun _ s => s.demote := rfl
  rw [hsources]
  cases t.leadLasts c now with
  | true => simp [NameMap.get?_filter]
  | false => simp [NameMap.get?_map, NameMap.get?_filter]

/-- A sweep takes the mark of a stream away or leaves it alone. -/
theorem mark_of_sweep {c : MonitorConf} {t : Track} {now : Nat} {name : String}
    (h : ((t.sweep c now).2.mark name).1 = true) : (t.sweep c now).2.mark name = t.mark name := by
  rw [mark, get?_sweep] at h ⊢
  rw [mark]
  cases hs : (t.sources.get? name).filter _ with
  | none =>
      rw [hs] at h
      contradiction
  | some s =>
      rw [hs, Option.map_some] at h
      rw [(Option.filter_eq_some_iff.1 hs).1, Option.map_some]
      split at h
      · next hlasts => rw [if_pos hlasts]
      · contradiction

/-! ### When a stream was last heard -/

namespace Event

/-- The time of an event. -/
def time : Event → Nat
  | .frame _ _ now | .invalid _ now _ | .sweep now => now

/-- Whether an event is a sweep. -/
def isSweep : Event → Bool
  | .sweep _ => true
  | .frame _ _ _ | .invalid _ _ _ => false

/-- The time of an event that something came over a stream by, usable or not. -/
def heardOn? (name : String) : Event → Option Nat
  | .frame _ streamId now | .invalid streamId now _ => if streamId = name then some now else none
  | .sweep _ => none

/-- A stream is heard at the time of the event. -/
theorem time_eq_of_heardOn? {name : String} {e : Event} {seen : Nat}
    (h : e.heardOn? name = some seen) : e.time = seen := by
  cases e with
  | frame f streamId now | invalid streamId now reason =>
      rw [heardOn?] at h
      split at h
      · exact Option.some.inj h
      · contradiction
  | sweep now => contradiction

end Event

/-- When something last came over a stream. -/
def lastHeard? (events : List Event) (name : String) : Option Nat :=
  (events.filterMap (Event.heardOn? name)).getLast?

/-- A stream was last heard by the last event, or before it. -/
theorem lastHeard?_concat (events : List Event) (e : Event) (name : String) :
    lastHeard? (events ++ [e]) name = (e.heardOn? name).or (lastHeard? events name) := by
  rw [lastHeard?, List.filterMap_append, List.getLast?_append, lastHeard?]
  cases h : e.heardOn? name with
  | none =>
      rw [List.filterMap_cons_none h]
      rfl
  | some seen =>
      rw [List.filterMap_cons_some h]
      rfl

/-- The last time at which a stream was heard is that of an event. -/
theorem exists_time_eq_of_lastHeard? {events : List Event} {name : String} {seen : Nat}
    (h : lastHeard? events name = some seen) : ∃ e ∈ events, e.time = seen := by
  obtain ⟨e, he, hheard⟩ := List.mem_filterMap.1 (List.mem_of_getLast? h)
  exact ⟨e, he, Event.time_eq_of_heardOn? hheard⟩

section

variable (t : Track) (streamId : String) (now : Nat) (name : String)

/-- Hearing a stream sets the time at which it was last heard, and that of no other one. -/
theorem lastSeen?_hear (count : Source → Source) (hcount : ∀ s, (count s).lastSeen = s.lastSeen) :
    (t.hear streamId now count).lastSeen? name =
      (if streamId = name then some now else none).or (t.lastSeen? name) := by
  rw [lastSeen?, hear, NameMap.get?_insert]
  by_cases hsame : name = streamId
  · rw [if_pos hsame, if_pos hsame.symm, Option.map_some, hcount, Option.some_or]
  · rw [if_neg hsame, if_neg (Ne.symm hsame), lastSeen?, Option.none_or]

/-- Numbering a frame hears its stream, and no other one. -/
theorem lastSeen?_numbered (c : SequenceConf) (f : Frame) :
    (t.numbered c f streamId now).lastSeen? name =
      (if streamId = name then some now else none).or (t.lastSeen? name) := by
  by_cases hsame : streamId = name
  · subst hsame
    obtain ⟨s, hs, hseen, -⟩ := exists_get?_numbered c t f streamId now
    rw [if_pos rfl, lastSeen?, hs, Option.map_some, hseen, Option.some_or]
  · rw [if_neg hsame, Option.none_or, lastSeen?,
      get?_numbered_of_ne c t f streamId now (Ne.symm hsame), lastSeen?]

/-- An election leaves alone when streams were last heard. -/
theorem lastSeen?_elect : (t.elect streamId now).lastSeen? name = t.lastSeen? name := by
  rw [lastSeen?, elect, NameMap.get?_map, lastSeen?]
  cases t.sources.get? name with
  | none => rfl
  | some s =>
      rw [Option.map_some, Option.map_some]
      split <;> rfl

/-- Arbitration leaves alone when streams were last heard. -/
theorem lastSeen?_arbitrate (c : SequenceConf) :
    (t.arbitrate c streamId now).2.lastSeen? name = t.lastSeen? name := by
  obtain ⟨-, heq⟩ | ⟨primary, -, -, heq⟩ | ⟨primary, -, -, heq⟩ :=
    arbitrate_cases c t streamId now
  · rw [heq]
    exact lastSeen?_elect t streamId now name
  · rw [heq]
  · rw [heq]
    rfl

/-- A sweep changes when a stream was last seen only by forgetting it. -/
theorem lastSeen?_of_sweep {c : MonitorConf} {t : Track} {seen : Nat}
    (h : (t.sweep c now).2.lastSeen? name = some seen) : t.lastSeen? name = some seen := by
  rw [lastSeen?, get?_sweep, Option.map_map] at h
  obtain ⟨s, hs, rfl⟩ := Option.map_eq_some_iff.1 h
  rw [lastSeen?, (Option.filter_eq_some_iff.1 hs).1, Option.map_some, Function.comp_apply]
  split <;> rfl

end

/-- A stream is last seen when it is heard, and is otherwise left alone or forgotten. -/
theorem lastSeen?_step {c : MonitorConf} {t : Track} {e : Event} {name : String} {seen : Nat}
    (h : (t.step c e).2.lastSeen? name = some seen) :
    (e.heardOn? name).or (t.lastSeen? name) = some seen := by
  cases e with
  | frame f streamId now =>
      have hseen : (t.step c (.frame f streamId now)).2.lastSeen? name =
          ((Event.frame f streamId now).heardOn? name).or (t.lastSeen? name) :=
        (lastSeen?_arbitrate _ streamId now name c.sequence).trans
          (lastSeen?_numbered t streamId now name c.sequence f)
      exact hseen.symm.trans h
  | invalid streamId now reason =>
      have hseen : (t.step c (.invalid streamId now reason)).2.lastSeen? name =
          ((Event.invalid streamId now reason).heardOn? name).or (t.lastSeen? name) :=
        lastSeen?_hear t streamId now name (fun s => { s with invalid := s.invalid + 1 })
          fun _ => rfl
      exact hseen.symm.trans h
  | sweep now => exact lastSeen?_of_sweep now name h

/-- **A source knows when its stream was last heard**, also after sweeps. -/
theorem lastHeard?_of_lastSeen? (c : MonitorConf) (systemId : UInt8) {events : List Event}
    {name : String} {seen : Nat} (h : ((new systemId).run c events).lastSeen? name = some seen) :
    lastHeard? events name = some seen := by
  induction events using List.reverseRecOn generalizing seen with
  | nil => contradiction
  | append_singleton events e ih =>
      rw [run_append] at h
      have hstep := lastSeen?_step h
      rw [lastHeard?_concat]
      cases hheard : e.heardOn? name with
      | none =>
          rw [hheard, Option.none_or] at hstep
          rw [Option.none_or, ih hstep]
      | some now =>
          rw [hheard, Option.some_or] at hstep
          rw [Option.some_or, hstep]

/-! ### Runs -/

/-- A frame that may not be used does not touch the marks. -/
theorem mark_invalid (c : MonitorConf) (t : Track) (streamId : String) (now : Nat)
    (reason : FailureReason) (name : String) :
    (t.step c (.invalid streamId now reason)).2.mark name = t.mark name :=
  mark_hear t streamId now (fun s => { s with invalid := s.invalid + 1 })
    (fun _ => ⟨rfl, rfl, rfl⟩) name

/-- No sweep of a run takes the mark of a stream away, neither by forgetting the stream nor because
the stream has been silent. -/
def SparesLead (c : MonitorConf) (t : Track) (name : String) (events : List Event) : Prop :=
  ∀ x ∈ t.trace c events, x.2.isSweep = true → (x.1.mark name).1 = true →
    ((x.1.step c x.2).2.mark name).1 = true

instance (c : MonitorConf) (t : Track) (name : String) (events : List Event) :
    Decidable (t.SparesLead c name events) :=
  inferInstanceAs (Decidable (∀ x ∈ t.trace c events, _))

/-- One event changes the mark of a stream that bears it, and is not a sweep that takes it away: the
event is a frame over a stream that does not keep the lead. -/
theorem exists_frame_of_mark_ne {c : MonitorConf} {t : Track} (h : WellKept t.sources) {e : Event}
    {p : String} {since? : Option Nat} (hmark : t.mark p = (true, since?))
    (hspared : e.isSweep = true → ((t.step c e).2.mark p).1 = true)
    (hlost : (t.step c e).2.mark p ≠ (true, since?)) :
    ∃ f streamId now, e = .frame f streamId now ∧
      ¬ t.KeepsLead streamId now c.sequence.multiSourceWindow ∧
      (t.step c e).2.HasPrimary streamId (some now) := by
  cases e with
  | frame f streamId now =>
      obtain ⟨-, hmarks⟩ | ⟨hkeeps, hprimary⟩ := mark_observe h c.sequence f streamId now
      · exact absurd ((hmarks p).trans hmark) hlost
      · exact ⟨f, streamId, now, rfl, hkeeps, hprimary⟩
  | invalid streamId now reason =>
      exact absurd ((mark_invalid c t streamId now reason p).trans hmark) hlost
  | sweep now => exact absurd ((mark_of_sweep (hspared rfl)).trans hmark) hlost

/-- **How a stream loses the lead in a run**, the times of which never decrease: a frame comes over
another stream, longer after anything came over the leading stream than the window. -/
theorem exists_takeover (c : MonitorConf) (systemId : UInt8) {events later : List Event}
    {p : String} {since? : Option Nat}
    (hordered : ((events ++ later).map Event.time).Pairwise (· ≤ ·))
    (hmark : ((new systemId).run c events).mark p = (true, since?))
    (hspared : ((new systemId).run c events).SparesLead c p later)
    (hlost : ((new systemId).run c (events ++ later)).mark p ≠ (true, since?)) :
    ∃ before f streamId now after last, later = before ++ .frame f streamId now :: after ∧
      ((new systemId).run c (events ++ before)).mark p = (true, since?) ∧ streamId ≠ p ∧
      lastHeard? (events ++ before) p = some last ∧ last + c.sequence.multiSourceWindow < now ∧
      (((new systemId).run c (events ++ before)).step c (.frame f streamId now)).2.HasPrimary
        streamId (some now) := by
  induction later generalizing events with
  | nil =>
      rw [List.append_nil] at hlost
      exact absurd hmark hlost
  | cons e later ih =>
      obtain ⟨hfirst, hrest⟩ := List.forall_mem_cons.1 hspared
      by_cases hstays : ((new systemId).run c (events ++ [e])).mark p = (true, since?)
      · have hspared' : ((new systemId).run c (events ++ [e])).SparesLead c p later := by
          rw [run_append]
          exact hrest
        rw [List.append_cons] at hordered hlost
        obtain ⟨before, f, streamId, now, after, last, rfl, htaken⟩ :=
          ih hordered hstays hspared' hlost
        refine ⟨e :: before, f, streamId, now, after, last, rfl, ?_⟩
        rwa [List.append_cons]
      · -- The event takes the lead away. So the stream that bore it had been silent.
        rw [run_append] at hstays
        have hkept : WellKept ((new systemId).run c events).sources :=
          (isCoherent_run (isCoherent_new systemId) c events).sources
        have hmarked : (((new systemId).run c events).mark p).1 = true := congrArg Prod.fst hmark
        obtain ⟨f, streamId, now, rfl, hlead, hprimary⟩ :=
          exists_frame_of_mark_ne hkept hmark (fun hsweep => hfirst hsweep hmarked) hstays
        obtain ⟨last, hled⟩ := exists_isLedBy hmarked
        have hlast : lastHeard? events p = some last :=
          lastHeard?_of_lastSeen? c systemId (isLedBy_iff.1 hled).2
        have hpast : last ≤ now := by
          obtain ⟨e, he, rfl⟩ := exists_time_eq_of_lastHeard? hlast
          rw [List.map_append, List.pairwise_append] at hordered
          exact hordered.2.2 e.time (List.mem_map_of_mem he) now List.mem_cons_self
        have hne : streamId ≠ p := by
          rintro rfl
          exact hlead ⟨streamId, last, hled, .inl rfl⟩
        have hsilent : last + c.sequence.multiSourceWindow < now := by
          refine Nat.lt_of_not_le fun hwithin => hlead ⟨p, last, hled, .inr ?_⟩
          exact seenWithin_iff.2 ⟨hpast, hwithin⟩
        refine ⟨[], f, streamId, now, later, last, rfl, ?_⟩
        rw [List.append_nil]
        exact ⟨hmark, hne, hlast, hsilent, hprimary⟩

/-- **The lead is arbitrated.** After any events, for a track with any configuration:

* a frame that may be used names the stream that leads, or keeps or takes the lead for its own;
* a frame that may not be used changes neither who leads nor since when;
* in a run the times of which never decrease, and no sweep of which takes the mark of a stream
  away, the stream loses the lead only by a frame over another one, which comes longer after
  anything that came over the stream than the window. -/
theorem arbitrates_run (c : MonitorConf) (systemId : UInt8) (events : List Event) :
    let t := (new systemId).run c events
    (∀ f streamId now, t.Arbitrates c.sequence streamId now
      (t.rivalReports c (.frame f streamId now)) (t.step c (.frame f streamId now)).2) ∧
    (∀ streamId now reason name,
      (t.step c (.invalid streamId now reason)).2.mark name = t.mark name) ∧
    (∀ later p since?, ((events ++ later).map Event.time).Pairwise (· ≤ ·) →
      t.mark p = (true, since?) → t.SparesLead c p later →
      (t.run c later).mark p ≠ (true, since?) →
        ∃ before f streamId now after last, later = before ++ .frame f streamId now :: after ∧
          (t.run c before).mark p = (true, since?) ∧ streamId ≠ p ∧
          lastHeard? (events ++ before) p = some last ∧
          last + c.sequence.multiSourceWindow < now ∧
          ((t.run c before).step c (.frame f streamId now)).2.HasPrimary streamId (some now)) := by
  intro t
  have hkept : WellKept t.sources := (isCoherent_run (isCoherent_new systemId) c events).sources
  refine ⟨arbitrates_frame hkept c, mark_invalid c t, ?_⟩
  intro later p since? hordered hmark hspared hlost
  rw [← run_append] at hlost
  obtain ⟨before, f, streamId, now, after, last, rfl, htaken⟩ :=
    exists_takeover c systemId hordered hmark hspared hlost
  refine ⟨before, f, streamId, now, after, last, rfl, ?_⟩
  rwa [run_append] at htaken

/-- The first stream leads. A frame that may not be used keeps it in the lead for a while: the
second stream is reported, and a sweep spares the lead. Then the second stream takes it. -/
theorem arbitrates_run_keptAlive :
    let events : List Event :=
      [.frame (Sample.frame 1 7) "udp" 0, .frame (Sample.frame 1 8) "tcp" 1000000000,
        .invalid "udp" 1500000000 .crcFailed]
    let later : List Event :=
      [.frame (Sample.frame 1 9) "tcp" 3000000000, .sweep 3200000000,
        .frame (Sample.frame 1 10) "tcp" 4000000000]
    let t := (new 1).run {} events
    t.rivalReports {} (.frame (Sample.frame 1 9) "tcp" 3000000000) =
        [⟨1, "tcp", 3000000000, .multiSource, .warn, "primary=udp"⟩] ∧
      (∃ before f streamId now after last, later = before ++ .frame f streamId now :: after ∧
        (t.run {} before).mark "udp" = (true, some 0) ∧ streamId ≠ "udp" ∧
        lastHeard? (events ++ before) "udp" = some last ∧ last + 2000000000 < now ∧
        ((t.run {} before).step {} (.frame f streamId now)).2.HasPrimary streamId (some now)) ∧
      (t.run {} (later.take 2)).mark "udp" = (true, some 0) ∧
      (t.run {} later).mark "tcp" = (true, some 4000000000) := by
  intro events later t
  obtain ⟨harbitrates, -, htakeover⟩ := arbitrates_run {} 1 events
  refine ⟨?_, ?_, by decide +kernel, by decide +kernel⟩
  · exact ((harbitrates (Sample.frame 1 9) "tcp" 3000000000).rival "udp" (some 0) 1500000000
      (by decide) (by decide +kernel) (by decide +kernel) (by decide) (by decide)).1
  · exact htakeover later "udp" (some 0) (by decide) (by decide +kernel) (by decide +kernel)
      (by decide +kernel)

end Track

end Mavlink
