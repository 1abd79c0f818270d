import Mavlink.Proofs.Health.Feed
import Mavlink.Workload

/-!
# Healthy systems

In the second workload a number of systems send frames to a shared monitor, each over one stream and
one frame after the other. None of them is so fast that it reuses its numbers too soon, so nothing
is detected: not if the systems come one after the other, and not if their frames come in any other
order.

## Main results

* `Workload.foldlM_feed`: a shared monitor takes in the frames of one system.
* `Workload.detections_eq_ok`: the workload yields no detections.
* `Workload.IsInterleaving.reply_eq`: nor does it if the systems send at the same time.
* `Feed.silent_until_reuse`: what is detected about a healthy stream, and about the workload.
-/

namespace Mavlink

/-! ### The workload -/

namespace Workload

open Monitor (Event Reply)

/-- The frame with the given number that a system sends. -/
def counterFrame (systemId : UInt8) (i : Nat) : Frame where
  version := .v2
  sequence := UInt8.ofNat i
  systemId := systemId
  componentId := 1
  messageId := 0
  payload := Bytes.littleEndian 4 i
  checksum := 0
  isSigned := false
  incompatFlags := 0
  compatFlags := 0
  signature? := none
  outcome := .unknown

/-- The frames of the workload can be built. -/
theorem build_counterDraft (systemId : UInt8) (i : Nat) :
    (counterDraft systemId i).build = .ok (counterFrame systemId i) := by
  simp only [counterDraft, Draft.build, counterFrame]
  rfl

/-- All frames that a system sends. -/
def counterFeed (systemId : UInt8) (count : Nat) : Feed :=
  .periodic systemId "udp" 0 (counterFrame systemId) (fun _ => rfl)
    (fun i => (UInt8.zero_add (UInt8.ofNat i)).symm) interval count

variable (systemId : UInt8) (count : Nat)

/-- A system that sends one more frame sends it last. -/
theorem events_counterFeed_succ :
    (counterFeed systemId (count + 1)).events = (counterFeed systemId count).events ++
      [.frame (counterFrame systemId count) "udp" (count * interval)] :=
  Feed.events_periodic_succ

/-- No system of the workload reuses a number too soon: 256 frames take longer. -/
theorem not_isReuse_counterFeed (i : Nat) :
    ¬ (counterFeed systemId count).IsReuse ({} : SequenceConf).duplicateTime i := by
  intro hreuse
  obtain ⟨-, -, hrecent⟩ := Feed.isReuse_periodic_iff.1 hreuse
  exact absurd hrecent (by decide)

/-- **A monitor is silent about the workload**, in whatever order the frames of its systems come. -/
theorem reply_of_filterMap_seenBy {before after : List Event} {f : Frame} {streamId : String}
    {now : Nat}
    (h : (before ++ .frame f streamId now :: after).filterMap (Event.seenBy f.systemId) =
      (counterFeed f.systemId count).seen) :
    (((Monitor.new {}).run before).step (.frame f streamId now)).1 = .detections [] := by
  obtain ⟨i, hseen, hframe, rfl⟩ :=
    (counterFeed f.systemId count).exists_getElem?_of_filterMap_seenBy rfl h
  have hfollows : (counterFeed f.systemId count).Follows i _ :=
    (counterFeed f.systemId count).follows_run (Monitor.get_new {} f.systemId)
      (Nat.le_of_lt (List.getElem?_eq_some_iff.1 hframe).1)
      (fun j _ => not_isReuse_counterFeed f.systemId count j) hseen
  refine (hfollows.step_of_not_isReuse hframe ?_).1
  rw [Monitor.conf_run]
  exact not_isReuse_counterFeed f.systemId count i

/-- A shared monitor takes in the next frame of a system without a detection. -/
theorem feed_eq_ok {m : Monitor} (hconf : m.conf = {}) (i : Nat)
    (hfollows : (counterFeed systemId (i + 1)).Follows i (m.track systemId)) :
    feed (SharedMonitor.new {}) systemId (0, m.share) i = .ok
      (0, (m.step (.frame (counterFrame systemId i) "udp" (i * interval))).2.share) := by
  have hframe : (counterFeed systemId (i + 1)).frames[i]? =
      some (counterFrame systemId i, i * interval) := Feed.getElem?_periodic (Nat.lt_succ_self i)
  have hfresh := not_isReuse_counterFeed systemId (i + 1) i
  obtain ⟨hreply, -⟩ := hfollows.step_of_not_isReuse hframe (hconf ▸ hfresh)
  have hsilent : (m.observe (counterFrame systemId i) "udp" (i * interval)).1 = [] :=
    Reply.detections.inj hreply
  rw [feed, build_counterDraft, ← hconf]
  simp only [bind, Except.bind, SharedMonitor.observe_share, hsilent]
  rfl

/-- **A shared monitor takes in all frames of a system** without a detection. -/
theorem foldlM_feed {m : Monitor} (hconf : m.conf = {}) (hunknown : m.tracks.get systemId = none) :
    (List.range count).foldlM (feed (SharedMonitor.new {}) systemId) (0, m.share) =
      .ok (0, (m.run (counterFeed systemId count).events).share) := by
  induction count with
  | zero => rfl
  | succ n ih =>
      have hearlier : (counterFeed systemId n).events =
          (counterFeed systemId (n + 1)).events.take n := by
        rw [events_counterFeed_succ, List.take_left']
        rw [Feed.events, List.length_map]
        exact Feed.length_periodic
      have hfollows := (counterFeed systemId (n + 1)).follows_run hunknown (n := n)
        (Nat.le_of_lt (Nat.lt_of_lt_of_eq (Nat.lt_succ_self n) Feed.length_periodic.symm))
        (fun i _ => hconf ▸ not_isReuse_counterFeed systemId (n + 1) i)
        ((counterFeed systemId (n + 1)).filterMap_seenBy_events_take n)
      rw [← hearlier] at hfollows
      rw [List.range_succ, List.foldlM_append, ih, events_counterFeed_succ, Monitor.run_append]
      exact feed_eq_ok systemId ((Monitor.conf_run m _).trans hconf) n hfollows

/-- A shared monitor takes in the frames of one system after the other without a detection, as long
as their ids differ. -/
theorem exists_foldlM_feed {systems : Nat} (hsystems : systems ≤ 256) :
    ∃ m : Monitor, m.conf = {} ∧ (∀ s : UInt8, systems ≤ s.toNat → m.tracks.get s = none) ∧
      (List.range systems).foldlM (fun state id => (List.range count).foldlM
        (feed (SharedMonitor.new {}) (UInt8.ofNat id)) state) (0, SharedTracks.empty) =
          .ok (0, m.share) := by
  induction systems with
  | zero => exact ⟨Monitor.new {}, rfl, fun s _ => Monitor.get_new {} s, rfl⟩
  | succ k ih =>
      obtain ⟨m, hconf, hunknown, hearlier⟩ := ih (Nat.le_of_succ_le hsystems)
      have hid : (UInt8.ofNat k).toNat = k := UInt8.toNat_ofNat_of_lt' hsystems
      have hnew := hunknown (UInt8.ofNat k) (Nat.le_of_eq hid.symm)
      refine ⟨m.run (counterFeed (UInt8.ofNat k) count).events,
        (Monitor.conf_run m _).trans hconf, fun s hs => ?_, ?_⟩
      · have hne : UInt8.ofNat k ≠ s := fun heq => by
          rw [← heq, hid] at hs
          exact Nat.not_succ_le_self k hs
        rw [Feed.get_run_events_of_ne _ m hne]
        exact hunknown s (Nat.le_of_succ_le hs)
      · rw [List.range_succ, List.foldlM_append, hearlier, ← foldlM_feed _ count hconf hnew]
        exact bind_pure (m := Except FrameError) _

/-- The workload runs without an error and without a detection. -/
theorem detections_eq_ok (systems : UInt8) : detections systems.toNat count = .ok 0 := by
  obtain ⟨m, -, -, hfold⟩ := exists_foldlM_feed count (Nat.le_of_lt systems.toNat_lt)
  rw [detections, hfold]
  rfl

/-- Calls through clones of one handle, in which every system of the workload sends its frames in
order. The calls of different systems follow each other in any way. -/
structure IsInterleaving (systems : UInt8) (count : Nat) (calls : List (SharedMonitor × Event)) :
    Prop where
  clones : ∀ x ∈ calls, (SharedMonitor.new {}).IsCloneOf x.1
  seen : ∀ s, (calls.map Prod.snd).filterMap (Event.seenBy s) =
    if s < systems then (counterFeed s count).seen else []

section

variable {systems : UInt8} {count : Nat} {calls : List (SharedMonitor × Event)}

/-- What a system sees of an interleaving comes from its feed. -/
theorem IsInterleaving.exists_frame (h : IsInterleaving systems count calls) {e : Event}
    (he : e ∈ calls.map Prod.snd) {s : UInt8} {x : Track.Event} (hx : e.seenBy s = some x) :
    s < systems ∧ ∃ f streamId now, x = .frame f streamId now := by
  have hmem : x ∈ (calls.map Prod.snd).filterMap (Event.seenBy s) :=
    List.mem_filterMap.2 ⟨e, he, hx⟩
  rw [h.seen] at hmem
  by_cases hlt : s < systems
  · rw [if_pos hlt] at hmem
    obtain ⟨y, -, rfl⟩ := List.mem_map.1 hmem
    exact ⟨hlt, _, _, _, rfl⟩
  · rw [if_neg hlt] at hmem
    contradiction

/-- **No call of an interleaving is answered with a detection.** -/
theorem IsInterleaving.reply_eq (h : IsInterleaving systems count calls)
    {before after : List Event} {e : Event} (hsplit : calls.map Prod.snd = before ++ e :: after) :
    (((Monitor.new {}).run before).step e).1 = .detections [] := by
  have he : e ∈ calls.map Prod.snd := hsplit ▸ List.mem_append_right before List.mem_cons_self
  cases e with
  | frame f streamId now =>
      have hown : (Event.frame f streamId now).seenBy f.systemId = some (.frame f streamId now) :=
        if_pos rfl
      obtain ⟨hlt, -⟩ := h.exists_frame he hown
      have hseen := h.seen f.systemId
      rw [hsplit, if_pos hlt] at hseen
      exact reply_of_filterMap_seenBy count hseen
  | invalid systemId streamId now reason =>
      obtain ⟨-, f, streamId, now, hframe⟩ := h.exists_frame he (if_pos rfl)
      contradiction
  | sweep now =>
      obtain ⟨-, f, streamId, now, hframe⟩ := h.exists_frame (s := 0) he rfl
      contradiction

end

end Workload

open Monitor (Event) in
/-- **A healthy stream is silent** until a number is reused too soon. The frames of a system that
was unknown come over one stream, numbered one after the other, in any run in which the system sees
nothing else:

* as long as no number is reused too soon, nothing is detected, every frame becomes the head, and
  nothing is counted;
* the first frame that reuses its number too soon is detected, once: as a repetition of the frame
  256 before it, or as one in conflict with it. The head stays where it is;
* the workload yields no detections if its systems come one after the other;
* and no call is answered with a detection if they come in any other order. -/
theorem Feed.silent_until_reuse :
    (∀ (m : Monitor) (feed : Feed), m.tracks.get feed.systemId = none →
      ∀ i f now, feed.frames[i]? = some (f, now) →
      (∀ j < i, ¬ feed.IsReuse m.conf.sequence.duplicateTime j) →
      ∀ events : List Event, events.filterMap (Event.seenBy feed.systemId) = feed.seen.take i →
        let result := (m.run events).step (.frame f feed.streamId now)
        (¬ feed.IsReuse m.conf.sequence.duplicateTime i →
          result.1 = .detections [] ∧
          result.2.standing feed.systemId = some (some ⟨feed.number i, now⟩, {})) ∧
        (feed.IsReuse m.conf.sequence.duplicateTime i →
          ∃ previous ∈ feed.frames[i - 256]?, ∃ last ∈ feed.frames[i - 1]?,
            result.1 = .detections
              [Finding.report feed.systemId feed.streamId now <|
                if previous.1.fingerprint = f.fingerprint then .duplicate (feed.number i)
                else .conflict (feed.number i) feed.streamId] ∧
            result.2.standing feed.systemId = some (some ⟨feed.number (i - 1), last.2⟩,
              { duplicates := if previous.1.fingerprint = f.fingerprint then 1 else 0 }))) ∧
    (∀ (systems : UInt8) (count : Nat), Workload.detections systems.toNat count = .ok 0) ∧
    (∀ (systems : UInt8) (count : Nat) (calls : List (SharedMonitor × Event)),
      Workload.IsInterleaving systems count calls →
      ∀ a ∈ SharedTracks.empty.answers (calls.map fun x => (x.1, .event x.2)),
        a = .reply (.detections [])) := by
  refine ⟨?_, fun systems count => Workload.detections_eq_ok count systems, ?_⟩
  · intro m feed hunknown i f now hframe hfresh events hseen result
    have hlt : i ≤ feed.frames.length := Nat.le_of_lt (List.getElem?_eq_some_iff.1 hframe).1
    have hfollows := feed.follows_run hunknown hlt hfresh hseen
    rw [← Monitor.conf_run m events]
    exact ⟨hfollows.step_of_not_isReuse hframe, hfollows.step_of_isReuse hframe⟩
  · intro systems count calls h a ha
    rw [SharedMonitor.answers_eq {} _ ?_, List.map_map] at ha
    · have hevents : calls.map (Prod.snd ∘ fun x => (x.1, Monitor.Call.event x.2)) =
          (calls.map Prod.snd).map .event := by
        rw [List.map_map]
        rfl
      rw [hevents] at ha
      obtain ⟨before, e, after, hsplit, rfl⟩ := Monitor.exists_split_of_mem_answers ha
      rw [h.reply_eq hsplit]
    · intro x hx
      obtain ⟨y, hy, rfl⟩ := List.mem_map.1 hx
      exact h.clones y hy

/-- A system that sends a frame every two milliseconds. -/
def Sample.feed : Feed :=
  .periodic 1 "udp" 250 (fun i => Sample.frame 1 (250 + UInt8.ofNat i)) (fun _ => rfl)
    (fun _ => rfl) 2000000 300

open Monitor (Event) in
/-- Sending every two milliseconds is too fast: the frame after the first 256 is taken for a
repetition. Two systems of the workload that take turns yield no detections. -/
theorem Feed.silent_until_reuse_tooFast :
    let calls := [1, 0].map fun s =>
      (SharedMonitor.new {}, Event.frame (Workload.counterFrame s 0) "udp" 0)
    ((((Monitor.new {}).run (Sample.feed.events.take 256)).step
        (.frame (Sample.frame 1 250) "udp" 512000000)).1 =
      .detections [⟨1, "udp", 512000000, .duplicate, .info, "seq=250"⟩] ∧
    (((Monitor.new {}).run (Sample.feed.events.take 256)).step
        (.frame (Sample.frame 1 250) "udp" 512000000)).2.standing 1 =
      some (some ⟨249, 510000000⟩, { duplicates := 1 })) ∧
    Workload.detections 3 1000 = .ok 0 ∧
    Workload.IsInterleaving 2 1 calls ∧
    ∀ a ∈ SharedTracks.empty.answers (calls.map fun x => (x.1, .event x.2)),
      a = .reply (.detections []) := by
  intro calls
  obtain ⟨hfeed, hdetections, hinterleaving⟩ := silent_until_reuse
  have hframe : Sample.feed.frames[256]? = some (Sample.frame 1 250, 512000000) :=
    getElem?_periodic (by decide)
  have hfirst : Sample.feed.frames[0]? = some (Sample.frame 1 250, 0) :=
    getElem?_periodic (by decide)
  have hbefore : Sample.feed.frames[255]? = some (Sample.frame 1 249, 510000000) :=
    getElem?_periodic (by decide)
  have hfresh : ∀ j < 256, ¬ Sample.feed.IsReuse 1000000000 j := fun j hj hreuse =>
    absurd (isReuse_periodic_iff.1 hreuse).1 (Nat.not_le_of_lt hj)
  have hreuse : Sample.feed.IsReuse 1000000000 256 :=
    isReuse_periodic_iff.2 ⟨by decide, by decide, by decide⟩
  have hcalls : Workload.IsInterleaving 2 1 calls := by
    constructor
    · intro x hx
      obtain ⟨s, -, rfl⟩ := List.mem_map.1 hx
      exact .self
    · intro s
      have hseen : (calls.map Prod.snd).filterMap (Event.seenBy s) =
          [1, 0].filterMap fun id => if id = s then
            some (Track.Event.frame (Workload.counterFrame id 0) "udp" 0) else none := rfl
      rw [hseen]
      by_cases hone : 1 = s
      · subst hone
        rfl
      · by_cases hzero : 0 = s
        · subst hzero
          rfl
        · have hother : ¬ s < 2 := by grind
          simp only [List.filterMap_cons, if_neg hone, if_neg hzero, List.filterMap_nil,
            if_neg hother]
  refine ⟨?_, hdetections 3 1000, hcalls, hinterleaving 2 1 calls hcalls⟩
  obtain ⟨previous, hprevious, last, hlast, hreply, hstanding⟩ :=
    (hfeed (Monitor.new {}) Sample.feed (Monitor.get_new {} 1) 256 _ _ hframe hfresh
      (Sample.feed.events.take 256) (Sample.feed.filterMap_seenBy_events_take 256)).2 hreuse
  obtain rfl := Option.some.inj (hfirst.symm.trans hprevious)
  obtain rfl := Option.some.inj (hbefore.symm.trans hlast)
  have hnumber : Sample.feed.number 256 = 250 := by decide
  have hnumber' : Sample.feed.number 255 = 249 := by decide
  have hreport : Finding.report 1 "udp" 512000000 (.duplicate 250) =
      ⟨1, "udp", 512000000, .duplicate, .info, "seq=250"⟩ := by decide +kernel
  rw [if_pos rfl, hnumber] at hreply
  rw [if_pos rfl, hnumber'] at hstanding
  exact ⟨hreply.trans (congrArg (fun d => Monitor.Reply.detections [d]) hreport), hstanding⟩

end Mavlink
