import Mavlink.Proofs.Health.Arbitration
import Mavlink.Proofs.Health.Isolation

/-!
# Feeds

A sender that numbers its frames one after the other comes back to a number after 256 frames. This
module follows such a sender, whose frames come over one stream and are not lost, through any number
of wraparounds. A track has nothing to notice, whatever the frames say and whenever they come, with
one exception: the first frame that reuses its number too soon is taken for a repetition of the one
256 before it, or for one in conflict with it, and does not become the head.

## Main results

* `Feed.Follows.observe`: what a track remembers of a feed, frame by frame.
* `Feed.follows_run`: the same for a monitor, which may hear other systems as well.
* `Feed.Follows.step_of_not_isReuse`, `Feed.Follows.step_of_isReuse`: what a monitor replies.
* `Feed.isReuse_periodic_iff`: the rate above which numbers are reused too soon.
-/

namespace Mavlink

/-- The frames of a system that come over one stream, numbered one after the other. Each comes with
its time. -/
structure Feed where
  systemId : UInt8
  streamId : String
  first : UInt8
  frames : List (Frame × Nat)
  systemId_frame (i : Nat) (x : Frame × Nat) : frames[i]? = some x → x.1.systemId = systemId
  sequence_frame (i : Nat) (x : Frame × Nat) :
    frames[i]? = some x → x.1.sequence = first + UInt8.ofNat i

namespace Feed

variable (feed : Feed)

/-- The number of the frame with an index. -/
def number (i : Nat) : UInt8 :=
  feed.first + UInt8.ofNat i

/-- The frame that bore the number of the frame with an index before it. -/
def previous? (i : Nat) : Option (Frame × Nat) :=
  if 256 ≤ i then feed.frames[i - 256]? else none

/-- The frame with an index reuses its number too soon: the frame that bore it before came at most
`window` before it. -/
def IsReuse (window i : Nat) : Prop :=
  ∃ x ∈ feed.frames[i]?, ∃ previous ∈ feed.previous? i,
    previous.2 ≤ x.2 ∧ x.2 - previous.2 ≤ window

/-- What the system of a feed sees of it. -/
def seen : List Track.Event :=
  feed.frames.map fun (f, now) => .frame f feed.streamId now

/-! ### Numbers -/

/-- Two frames bear one number if their indices differ by a multiple of 256. -/
theorem number_eq_iff (i j : Nat) : feed.number i = feed.number j ↔ i % 256 = j % 256 := by
  rw [number, number, UInt8.add_right_inj, ← UInt8.toNat_inj, UInt8.toNat_ofNat',
    UInt8.toNat_ofNat']

/-- Every number is one ahead of the number before. -/
theorem number_succ_sub (i : Nat) : feed.number (i + 1) - feed.number i = 1 := by
  have hsucc : feed.number (i + 1) = 1 + feed.number i := by
    rw [number, number, UInt8.ofNat_add, ← UInt8.add_assoc, UInt8.add_comm]
    rfl
  rw [hsucc, UInt8.add_sub_cancel]

/-- Before every frame but the first one there is a frame. -/
theorem exists_frame_of_succ {i : Nat} {x : Frame × Nat} (h : feed.frames[i + 1]? = some x) :
    ∃ last, feed.frames[i]? = some last := by
  obtain ⟨hlt, -⟩ := List.getElem?_eq_some_iff.1 h
  exact ⟨_, List.getElem?_eq_getElem (Nat.lt_of_succ_lt hlt)⟩

/-! ### Tracks -/

/-- What is remembered of a frame that comes over the stream of the feed. -/
def sighting (x : Frame × Nat) : Sighting :=
  ⟨x.1.sequence, x.1.fingerprint, feed.streamId, x.2⟩

/-- The head after the first frames of the feed. -/
def head? : Nat → Option Head
  | 0 => none
  | i + 1 => feed.frames[i]?.map fun x => ⟨x.1.sequence, x.2⟩

/-- A track has followed a feed for `n` frames: nothing was counted, the last of the frames is the
head, the ring holds the last 256 of them, and nobody leads but the stream of the feed. -/
structure Follows (n : Nat) (t : Track) : Prop where
  systemId_eq : t.systemId = feed.systemId
  head?_eq : t.head? = feed.head? n
  ring_eq : ∀ i, n ≤ i → i < n + 256 →
    t.ring.get (feed.number i) = (feed.previous? i).map feed.sighting
  counters_eq : t.counters = {}
  wellKept : Source.WellKept t.sources
  leader_eq : ∀ leader seen, t.IsLedBy leader seen → leader = feed.streamId

/-- A new track has followed a feed for no frames. -/
theorem follows_new : feed.Follows 0 (Track.new feed.systemId) where
  systemId_eq := rfl
  head?_eq := rfl
  ring_eq i _ hi := by
    have hring : (Track.new feed.systemId).ring.get (feed.number i) = none := Slots.get_empty _
    rw [hring, previous?, if_neg (by omega)]
    rfl
  counters_eq := rfl
  wellKept := Source.wellKept_empty
  leader_eq leader seen := by
    rintro ⟨s, hs, -⟩
    contradiction

section

variable {feed} {n : Nat} {t : Track} {c : SequenceConf} {f : Frame} {now : Nat}

/-- The stream of a feed is never challenged by another one. -/
theorem Follows.not_isChallenged (h : feed.Follows n t) (window : Nat) :
    ¬ t.IsChallenged feed.streamId now window := by
  rintro ⟨leader, seen, hled, hne, -⟩
  exact hne (h.leader_eq leader seen hled)

/-- A frame that does not reuse its number too soon is the first one, or one ahead of the head. -/
theorem Follows.arrival_of_not_isReuse (h : feed.Follows n t)
    (hframe : feed.frames[n]? = some (f, now)) (hfresh : ¬ feed.IsReuse c.duplicateTime n) :
    t.arrival c f now = .first ∨ t.arrival c f now = .ahead 0 := by
  have hnumber : f.sequence = feed.number n := feed.sequence_frame n _ hframe
  have hold : (t.ring.get f.sequence).filter
      (fun last => seenWithin now last.seenAt c.duplicateTime) = none := by
    rw [hnumber, h.ring_eq n (Nat.le_refl n) (by omega), Option.filter_eq_none_iff]
    intro last hlast
    obtain ⟨previous, hprevious, rfl⟩ := Option.map_eq_some_iff.1 hlast
    rw [seenWithin_iff]
    rintro ⟨hpast, hrecent⟩
    exact hfresh ⟨(f, now), hframe, previous, hprevious, hpast, Nat.sub_le_iff_le_add'.2 hrecent⟩
  simp only [Track.arrival, Arrival.classify, hold, h.head?_eq]
  cases n with
  | zero => exact .inl rfl
  | succ i =>
      obtain ⟨last, hlast⟩ := feed.exists_frame_of_succ hframe
      have hbefore : last.1.sequence = feed.number i := feed.sequence_frame i last hlast
      rw [head?, hlast, Option.map_some, hnumber, hbefore]
      simp only [Arrival.relative, number_succ_sub]
      exact .inr rfl

/-- A frame that reuses its number too soon repeats the frame that bore it before, or is in conflict
with it. -/
theorem Follows.arrival_of_isReuse (h : feed.Follows n t) {previous : Frame × Nat}
    (hframe : feed.frames[n]? = some (f, now)) (hprevious : feed.previous? n = some previous)
    (hpast : previous.2 ≤ now) (hrecent : now - previous.2 ≤ c.duplicateTime) :
    t.arrival c f now =
      if previous.1.fingerprint = f.fingerprint then .duplicate else .conflict feed.streamId := by
  have hnumber : f.sequence = feed.number n := feed.sequence_frame n _ hframe
  have hold : (t.ring.get f.sequence).filter
      (fun last => seenWithin now last.seenAt c.duplicateTime) =
        some (feed.sighting previous) := by
    rw [hnumber, h.ring_eq n (Nat.le_refl n) (by omega), hprevious, Option.map_some]
    exact Option.filter_some_pos (seenWithin_iff.2 ⟨hpast, Nat.sub_le_iff_le_add'.1 hrecent⟩)
  simp only [Track.arrival, Arrival.classify, hold, sighting]

/-- **A frame that does not reuse its number too soon** is followed, and nothing is noticed. -/
theorem Follows.observe (h : feed.Follows n t) (hframe : feed.frames[n]? = some (f, now))
    (hfresh : ¬ feed.IsReuse c.duplicateTime n) :
    (t.observe c f feed.streamId now).1 = [] ∧
      feed.Follows (n + 1) (t.observe c f feed.streamId now).2 := by
  have hquiet : (t.arrival c f now).isAccepted = true ∧
      (t.arrival c f now).findings f.sequence = [] ∧
      t.counters.arrive (t.arrival c f now) = t.counters := by
    obtain harrival | harrival := h.arrival_of_not_isReuse hframe hfresh
    · rw [harrival]
      exact ⟨rfl, rfl, rfl⟩
    · rw [harrival]
      exact ⟨rfl, rfl, rfl⟩
  obtain ⟨haccepted, hfindings, hcounters⟩ := hquiet
  obtain ⟨hnoticed, hcounted, hlead⟩ :=
    Track.observe_of_not_challenged (f := f) h.wellKept (h.not_isChallenged c.multiSourceWindow)
  refine ⟨hnoticed.trans hfindings, ?_⟩
  exact {
    systemId_eq := by
      rw [← h.systemId_eq, ← Track.systemId_numbered c t f feed.streamId now]
      exact Track.systemId_arbitrate c _ feed.streamId now
    head?_eq := by
      rw [Track.head?_observe, if_pos haccepted, head?, hframe, Option.map_some]
    ring_eq := fun i hle hlt => by
      have hnumber : f.sequence = feed.number n := feed.sequence_frame n _ hframe
      rw [Track.ring_observe, Slots.get_set]
      by_cases hwrapped : i = n + 256
      · -- The ring has come round to the number of the new frame.
        subst hwrapped
        have hsame : feed.number n = feed.number (n + 256) :=
          (feed.number_eq_iff n (n + 256)).2 (Nat.add_mod_right n 256).symm
        rw [if_pos (hnumber.trans hsame), previous?, if_pos (Nat.le_add_left 256 n),
          Nat.add_sub_cancel, hframe]
        rfl
      · have hother : f.sequence ≠ feed.number i := by
          rw [hnumber, Ne, feed.number_eq_iff]
          omega
        rw [if_neg hother]
        exact h.ring_eq i (by omega) (by omega)
    counters_eq := (hcounted.trans hcounters).trans h.counters_eq
    wellKept := Track.wellKept_observe h.wellKept feed.streamId now c f
    leader_eq := fun leader seen hled => ((hlead leader seen).1 hled).1 }

/-- **A frame that reuses its number too soon** is noticed, and the head stays where it is. -/
theorem Follows.observe_of_isReuse (h : feed.Follows n t) {previous : Frame × Nat}
    (hframe : feed.frames[n]? = some (f, now)) (hprevious : feed.previous? n = some previous)
    (hpast : previous.2 ≤ now) (hrecent : now - previous.2 ≤ c.duplicateTime) :
    (t.observe c f feed.streamId now).1 =
        [if previous.1.fingerprint = f.fingerprint then .duplicate f.sequence
          else .conflict f.sequence feed.streamId] ∧
      (t.observe c f feed.streamId now).2.head? = feed.head? n ∧
      (t.observe c f feed.streamId now).2.counters =
        { duplicates := if previous.1.fingerprint = f.fingerprint then 1 else 0 } := by
  have harrival := h.arrival_of_isReuse hframe hprevious hpast hrecent
  obtain ⟨hnoticed, hcounted, -⟩ :=
    Track.observe_of_not_challenged (f := f) h.wellKept (h.not_isChallenged c.multiSourceWindow)
  rw [hnoticed, hcounted, Track.head?_observe, harrival, h.head?_eq, h.counters_eq]
  by_cases hsame : previous.1.fingerprint = f.fingerprint
  · simp only [if_pos hsame]
    exact ⟨rfl, rfl, rfl⟩
  · simp only [if_neg hsame]
    exact ⟨rfl, rfl, rfl⟩

end

/-! ### Monitors -/

/-- The events that bring the frames of the feed to a monitor. -/
def events : List Monitor.Event :=
  feed.frames.map fun (f, now) => .frame f feed.streamId now

/-- The system of a feed sees all of it. -/
theorem filterMap_seenBy_events_take (n : Nat) :
    (feed.events.take n).filterMap (Monitor.Event.seenBy feed.systemId) = feed.seen.take n := by
  rw [events, seen, ← List.map_take, ← List.map_take, List.filterMap_map, ← List.filterMap_eq_map]
  refine List.filterMap_congr fun x hx => ?_
  obtain ⟨i, hi⟩ := List.mem_iff_getElem?.1 (List.mem_of_mem_take hx)
  exact if_pos (feed.systemId_frame i x hi)

/-- Other systems see nothing of a feed. -/
theorem get_run_events_of_ne (m : Monitor) {s : UInt8} (hne : feed.systemId ≠ s) :
    (m.run feed.events).tracks.get s = m.tracks.get s := by
  have hnothing : feed.events.filterMap (Monitor.Event.seenBy s) = [] := by
    refine List.filterMap_eq_nil_iff.2 fun e he => ?_
    obtain ⟨x, hx, rfl⟩ := List.mem_map.1 he
    obtain ⟨i, hi⟩ := List.mem_iff_getElem?.1 hx
    exact Monitor.seenBy_of_ne (congrArg some (feed.systemId_frame i x hi)) hne
  rw [Monitor.get_run, hnothing, List.foldl_nil]

/-- **What a monitor remembers of a feed**, after a run in which the system of the feed, which was
unknown, has seen the first frames of the feed and nothing else. -/
theorem follows_run {m : Monitor} (hunknown : m.tracks.get feed.systemId = none) {n : Nat}
    (hn : n ≤ feed.frames.length)
    (hfresh : ∀ i < n, ¬ feed.IsReuse m.conf.sequence.duplicateTime i)
    {events : List Monitor.Event}
    (hseen : events.filterMap (Monitor.Event.seenBy feed.systemId) = feed.seen.take n) :
    feed.Follows n ((m.run events).track feed.systemId) := by
  rw [Monitor.track, Monitor.get_run, hseen, hunknown]
  clear hseen
  induction n with
  | zero => exact feed.follows_new
  | succ n ih =>
      have hbefore := ih (Nat.le_of_succ_le hn) fun i hi => hfresh i (Nat.lt_succ_of_lt hi)
      obtain ⟨⟨f, now⟩, hframe⟩ : ∃ x, feed.frames[n]? = some x :=
        ⟨_, List.getElem?_eq_getElem hn⟩
      have hlast : feed.seen[n]? = some (.frame f feed.streamId now) := by
        rw [seen, List.getElem?_map, hframe, Option.map_some]
      rw [List.take_add_one, hlast, Option.toList_some, List.foldl_append]
      exact (hbefore.observe hframe (hfresh n (Nat.lt_succ_self n))).2

section

variable {feed} {m : Monitor} {i : Nat} {f : Frame} {now : Nat}

/-- **A monitor is silent** about a frame that does not reuse its number too soon: the frame becomes
the head, and nothing is counted. -/
theorem Follows.step_of_not_isReuse (h : feed.Follows i (m.track feed.systemId))
    (hframe : feed.frames[i]? = some (f, now))
    (hfresh : ¬ feed.IsReuse m.conf.sequence.duplicateTime i) :
    (m.step (.frame f feed.streamId now)).1 = .detections [] ∧
      (m.step (.frame f feed.streamId now)).2.standing feed.systemId =
        some (some ⟨feed.number i, now⟩, {}) := by
  obtain ⟨hnoticed, hfollows⟩ := h.observe hframe hfresh
  have hnumber : f.sequence = feed.number i := feed.sequence_frame i _ hframe
  have hsystem : f.systemId = feed.systemId := feed.systemId_frame i _ hframe
  rw [← hsystem] at hnoticed hfollows ⊢
  constructor
  · rw [Monitor.step_frame_fst_eq_detect, Track.detect, Track.step, hnoticed, List.map_nil]
  · have hhead := hfollows.head?_eq
    rw [head?, hframe, Option.map_some, hnumber] at hhead
    rw [Monitor.standing, Monitor.get_step_frame, Option.map_some]
    exact congrArg some (Prod.ext hhead hfollows.counters_eq)

/-- **A monitor reports** a frame that reuses its number too soon, once, and its head stays where it
is. -/
theorem Follows.step_of_isReuse (h : feed.Follows i (m.track feed.systemId))
    (hframe : feed.frames[i]? = some (f, now))
    (hreuse : feed.IsReuse m.conf.sequence.duplicateTime i) :
    ∃ previous ∈ feed.frames[i - 256]?, ∃ last ∈ feed.frames[i - 1]?,
      (m.step (.frame f feed.streamId now)).1 = .detections
        [Finding.report feed.systemId feed.streamId now <|
          if previous.1.fingerprint = f.fingerprint then .duplicate (feed.number i)
          else .conflict (feed.number i) feed.streamId] ∧
      (m.step (.frame f feed.streamId now)).2.standing feed.systemId =
        some (some ⟨feed.number (i - 1), last.2⟩,
          { duplicates := if previous.1.fingerprint = f.fingerprint then 1 else 0 }) := by
  obtain ⟨x, hx, previous, hprevious, hpast, hrecent⟩ := hreuse
  obtain rfl := Option.some.inj (hframe.symm.trans hx)
  obtain ⟨hnoticed, hhead, hcounters⟩ := h.observe_of_isReuse hframe hprevious hpast hrecent
  obtain ⟨hwrapped, hearlier⟩ := Option.ite_none_right_eq_some.1 hprevious
  obtain ⟨k, rfl⟩ : ∃ k, i = k + 1 := ⟨i - 1, by omega⟩
  obtain ⟨last, hlast⟩ := feed.exists_frame_of_succ hframe
  have hnumber : f.sequence = feed.number (k + 1) := feed.sequence_frame (k + 1) _ hframe
  have hbefore : last.1.sequence = feed.number k := feed.sequence_frame k last hlast
  have hsystem : f.systemId = feed.systemId := feed.systemId_frame (k + 1) _ hframe
  have htrack : (m.track feed.systemId).systemId = feed.systemId := h.systemId_eq
  rw [head?, hlast, Option.map_some, hbefore] at hhead
  rw [hnumber] at hnoticed
  rw [← hsystem] at hnoticed hhead hcounters htrack ⊢
  refine ⟨previous, hearlier, last, hlast, ?_, ?_⟩
  · rw [Monitor.step_frame_fst_eq_detect, Track.detect, Track.step, hnoticed, List.map_singleton,
      htrack]
  · rw [Monitor.standing, Monitor.get_step_frame, Option.map_some]
    exact congrArg some (Prod.ext hhead hcounters)

end

/-- Every frame that the system of a feed sees has its place in the feed, if the feed is all that
the system sees. -/
theorem exists_getElem?_of_filterMap_seenBy {before after : List Monitor.Event} {f : Frame}
    {streamId : String} {now : Nat} (hsystem : f.systemId = feed.systemId)
    (h : (before ++ .frame f streamId now :: after).filterMap
      (Monitor.Event.seenBy feed.systemId) = feed.seen) :
    ∃ i, before.filterMap (Monitor.Event.seenBy feed.systemId) = feed.seen.take i ∧
      feed.frames[i]? = some (f, now) ∧ streamId = feed.streamId := by
  have hsees : (Monitor.Event.frame f streamId now).seenBy feed.systemId =
      some (.frame f streamId now) := if_pos hsystem
  rw [List.filterMap_append, List.filterMap_cons_some hsees] at h
  refine ⟨(before.filterMap (Monitor.Event.seenBy feed.systemId)).length, ?_, ?_⟩
  · rw [← h, List.take_left]
  · have hplace : feed.seen[(before.filterMap
        (Monitor.Event.seenBy feed.systemId)).length]? = some (.frame f streamId now) := by
      rw [← h, List.getElem?_append_right (Nat.le_refl _), Nat.sub_self, List.getElem?_cons_zero]
    rw [seen, List.getElem?_map] at hplace
    obtain ⟨x, hx, heq⟩ := Option.map_eq_some_iff.1 hplace
    obtain ⟨rfl, rfl, rfl⟩ := Track.Event.frame.inj heq
    exact ⟨hx, rfl⟩

/-! ### Senders with a fixed rate -/

/-- The feed of a system that sends its frames one period after the other. -/
def periodic (systemId : UInt8) (streamId : String) (first : UInt8) (frame : Nat → Frame)
    (hsystem : ∀ i, (frame i).systemId = systemId)
    (hsequence : ∀ i, (frame i).sequence = first + UInt8.ofNat i) (period count : Nat) : Feed where
  systemId := systemId
  streamId := streamId
  first := first
  frames := (List.range count).map fun i => (frame i, i * period)
  systemId_frame i x h := by
    obtain ⟨j, -, rfl⟩ := List.mem_map.1 (List.mem_of_getElem? h)
    exact hsystem j
  sequence_frame i x h := by
    rw [List.getElem?_map] at h
    obtain ⟨j, hj, rfl⟩ := Option.map_eq_some_iff.1 h
    obtain ⟨hlt, rfl⟩ := List.getElem?_eq_some_iff.1 hj
    rw [List.getElem_range]
    exact hsequence i

section

variable {systemId : UInt8} {streamId : String} {first : UInt8} {frame : Nat → Frame}
  {hsystem : ∀ i, (frame i).systemId = systemId}
  {hsequence : ∀ i, (frame i).sequence = first + UInt8.ofNat i} {period count : Nat}

/-- A periodic feed has as many frames as it is asked for. -/
theorem length_periodic :
    (periodic systemId streamId first frame hsystem hsequence period count).frames.length =
      count := by
  rw [periodic, List.length_map, List.length_range]

/-- The frames of a periodic feed come one period after the other. -/
theorem getElem?_periodic {i : Nat} (h : i < count) :
    (periodic systemId streamId first frame hsystem hsequence period count).frames[i]? =
      some (frame i, i * period) := by
  rw [periodic, List.getElem?_map, List.getElem?_range h, Option.map_some]

/-- A longer periodic feed is a shorter one with another frame behind it. -/
theorem events_periodic_succ :
    (periodic systemId streamId first frame hsystem hsequence period (count + 1)).events =
      (periodic systemId streamId first frame hsystem hsequence period count).events ++
        [.frame (frame count) streamId (count * period)] := by
  simp only [events, periodic, List.range_succ, List.map_append, List.map_singleton]

/-- **The rate above which numbers are reused too soon**: 256 periods fit into the window. -/
theorem isReuse_periodic_iff {window i : Nat} :
    (periodic systemId streamId first frame hsystem hsequence period count).IsReuse window i ↔
      256 ≤ i ∧ i < count ∧ 256 * period ≤ window := by
  by_cases hrange : 256 ≤ i ∧ i < count
  · obtain ⟨hwrapped, hlt⟩ := hrange
    obtain ⟨k, rfl⟩ : ∃ k, i = k + 256 := ⟨i - 256, by omega⟩
    have helapsed : (k + 256) * period - k * period = 256 * period := by
      rw [Nat.add_mul, Nat.add_sub_cancel_left]
    have hpast : k * period ≤ (k + 256) * period := Nat.mul_le_mul_right period (by omega)
    rw [IsReuse, previous?, if_pos hwrapped, getElem?_periodic hlt, Nat.add_sub_cancel,
      getElem?_periodic (by omega)]
    constructor
    · rintro ⟨x, hx, previous, hprevious, -, hrecent⟩
      obtain rfl := Option.some.inj hx
      obtain rfl := Option.some.inj hprevious
      exact ⟨hwrapped, hlt, helapsed ▸ hrecent⟩
    · rintro ⟨-, -, hrecent⟩
      exact ⟨_, rfl, _, rfl, hpast, helapsed.symm ▸ hrecent⟩
  · constructor
    · rintro ⟨x, hx, previous, hprevious, -⟩
      obtain ⟨hwrapped, -⟩ := Option.ite_none_right_eq_some.1 hprevious
      obtain ⟨hlt, -⟩ := List.getElem?_eq_some_iff.1 hx
      rw [length_periodic] at hlt
      exact absurd ⟨hwrapped, hlt⟩ hrange
    · rintro ⟨hwrapped, hlt, -⟩
      exact absurd ⟨hwrapped, hlt⟩ hrange

end

end Feed

end Mavlink
