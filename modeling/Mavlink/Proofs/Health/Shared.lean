import Mavlink.Health.SharedMonitor
import Mavlink.Proofs.Health.Monitor

/-!
# The shared monitor and the plain one

A shared monitor is used through handles. It finds the track of a system, or makes one, works on it
and puts it back, and it sweeps the tracks one after the other; the plain monitor works on all its
tracks at once. When the calls come one after the other, nobody can tell the two apart.

## Main results

* `SharedMonitor.foldl_sweepOne`: what a sweep does that visits the systems one after the other.
* `SharedMonitor.call_share`: a call through a handle does what it does to a plain monitor.
* `SharedMonitor.answers_eq`: a shared monitor refines the plain one, through any clones.
-/

namespace Mavlink

/-! ### Calls -/

namespace Monitor

/-- A call to a monitor. -/
inductive Call
  | event (e : Event)
  | snapshot (systemId : UInt8)
  | snapshots
  | size
  | isEmpty

/-- What a call returns. -/
inductive Answer
  | reply (r : Reply)
  | snapshot (known? : Option Snapshot)
  | snapshots (known : List Snapshot)
  | size (n : Nat)
  | isEmpty (b : Bool)
  deriving DecidableEq

/-- What a call returns, and the monitor after it. -/
def call (m : Monitor) : Call → Answer × Monitor
  | .event e => (.reply (m.step e).1, (m.step e).2)
  | .snapshot systemId => (.snapshot (m.snapshot? systemId), m)
  | .snapshots => (.snapshots m.snapshots, m)
  | .size => (.size m.size, m)
  | .isEmpty => (.isEmpty m.isEmpty, m)

/-- What the calls of a sequence return. -/
def answers (m : Monitor) : List Call → List Answer
  | [] => []
  | c :: calls => (m.call c).1 :: (m.call c).2.answers calls

/-- The tracks of a monitor, to be shared. -/
def share (m : Monitor) : SharedTracks :=
  ⟨m.tracks⟩

end Monitor

namespace SharedMonitor

open Monitor (Event Reply Call Answer)

/-- What a shared monitor answers to an event, and the tracks after it. -/
def step (h : SharedMonitor) (s : SharedTracks) : Event → Reply × SharedTracks
  | .frame f streamId now =>
    let (reports, s) := h.observe s f streamId now
    (.detections reports, s)
  | .invalid systemId streamId now reason =>
    let (reports, s) := h.observeInvalid s systemId streamId now reason
    (.detections reports, s)
  | .sweep now =>
    let (result, s) := h.sweep s now
    (.swept result, s)

/-- What a call through a handle returns, and the tracks after it. -/
def call (h : SharedMonitor) (s : SharedTracks) : Call → Answer × SharedTracks
  | .event e => (.reply (h.step s e).1, (h.step s e).2)
  | .snapshot systemId => (.snapshot (h.snapshot? s systemId), s)
  | .snapshots => (.snapshots (h.snapshots s), s)
  | .size => (.size s.size, s)
  | .isEmpty => (.isEmpty s.isEmpty, s)

/-- The handles that are made from one by cloning. -/
inductive IsCloneOf (h : SharedMonitor) : SharedMonitor → Prop
  | self : IsCloneOf h h
  | clone {h' : SharedMonitor} : IsCloneOf h h' → IsCloneOf h h'.clone

/-- Clones have the configuration of the handle that they are made from. -/
theorem IsCloneOf.eq {h h' : SharedMonitor} (hclone : IsCloneOf h h') : h' = h := by
  induction hclone with
  | self => rfl
  | clone _ ih => exact ih

end SharedMonitor

open Monitor (Event Call Answer) in
/-- What the calls of a sequence return, each through its handle. -/
def SharedTracks.answers (s : SharedTracks) : List (SharedMonitor × Call) → List Answer
  | [] => []
  | (h, c) :: calls => (h.call s c).1 :: (h.call s c).2.answers calls

open Monitor (Event) in
/-- The tracks after several events, each brought through its handle. -/
def SharedTracks.run (s : SharedTracks) (events : List (SharedMonitor × Event)) : SharedTracks :=
  events.foldl (fun s x => (x.1.step s x.2).2) s

/-! ### Sweeps -/

namespace SharedTracks

/-- The tracks that are found at the ids of the known systems are all tracks. -/
theorem filterMap_systemIds (s : SharedTracks) :
    s.systemIds.filterMap s.tracks.get = s.tracks.entries := by
  rw [systemIds, List.filterMap_filter, Slots.entries_eq]
  refine List.filterMap_congr fun id _ => ?_
  cases s.tracks.get id with
  | none => rfl
  | some t => rfl

/-- The known systems are those that have a track. -/
theorem mem_systemIds {s : SharedTracks} {id : UInt8} :
    id ∈ s.systemIds ↔ (s.tracks.get id).isSome := by
  rw [systemIds, List.mem_filter]
  exact and_iff_right (Slots.mem_indices id)

/-- Each known system is listed once. -/
theorem nodup_systemIds (s : SharedTracks) : s.systemIds.Nodup :=
  Slots.nodup_indices.filter _

end SharedTracks

namespace SharedMonitor

variable (h : SharedMonitor) (now : Nat)

/-- Sweeping one system forgets what is to be forgotten of it, and leaves the others alone. -/
theorem sweepOne_eq (results : List SweepResult) (s : SharedTracks) (id : UInt8) :
    h.sweepOne now (.total results, s) id =
      (.total (results ++ [(s.tracks.get id).elim {} (Track.removed h.conf now)]),
        ⟨s.tracks.set id ((s.tracks.get id).bind (Track.swept h.conf now))⟩) := by
  rw [SweepResult.total_concat]
  cases htrack : s.tracks.get id with
  | none =>
      simp only [sweepOne, htrack]
      rw [Option.bind_none, Slots.set_eq_self htrack]
      rfl
  | some t =>
      simp only [sweepOne, htrack]
      rw [Track.isExpired_sweep, Option.bind_some, Option.elim_some, Track.removed, Track.swept]
      split <;> rfl

/-- **Sweeping the systems one after the other**, each at most once, forgets of each what is to be
forgotten of it, and leaves the others alone. -/
theorem foldl_sweepOne (results : List SweepResult) (s : SharedTracks) {ids : List UInt8}
    (hids : ids.Nodup) :
    (ids.foldl (h.sweepOne now) (.total results, s)).1 = .total (results ++
        ids.map fun id => (s.tracks.get id).elim {} (Track.removed h.conf now)) ∧
      ∀ i, (ids.foldl (h.sweepOne now) (.total results, s)).2.tracks.get i =
        if i ∈ ids then (s.tracks.get i).bind (Track.swept h.conf now) else s.tracks.get i := by
  induction ids generalizing results s with
  | nil => exact ⟨by rw [List.map_nil, List.append_nil, List.foldl_nil], fun i => rfl⟩
  | cons id ids ih =>
      obtain ⟨hid, hrest⟩ := List.nodup_cons.1 hids
      rw [List.foldl_cons, sweepOne_eq]
      obtain ⟨hresults, htracks⟩ := ih
        (results ++ [(s.tracks.get id).elim {} (Track.removed h.conf now)])
        ⟨s.tracks.set id ((s.tracks.get id).bind (Track.swept h.conf now))⟩ hrest
      refine ⟨?_, fun i => ?_⟩
      · -- The systems that come later still have the tracks that they had.
        rw [hresults, List.append_assoc, List.map_cons, List.singleton_append]
        congr 3
        refine List.map_congr_left fun i hi => ?_
        have hne : id ≠ i := fun heq => hid (heq ▸ hi)
        rw [Slots.get_set, if_neg hne]
      · rw [htracks, Slots.get_set]
        by_cases heq : id = i
        · subst heq
          rw [if_neg hid, if_pos rfl, if_pos List.mem_cons_self]
        · have hmem : i ∈ id :: ids ↔ i ∈ ids :=
            ⟨fun hi => (List.mem_cons.1 hi).resolve_left (Ne.symm heq), List.mem_cons_of_mem id⟩
          simp only [if_neg heq, hmem]

end SharedMonitor

/-! ### Refinement -/

namespace Monitor

/-- Calls leave the configuration alone. -/
theorem conf_call (m : Monitor) (c : Call) : (m.call c).2.conf = m.conf := by
  cases c with
  | event e => exact conf_step m e
  | snapshot systemId | snapshots | size | isEmpty => rfl

/-- What events get as answers are the replies of the monitor that they find. -/
theorem exists_split_of_mem_answers {m : Monitor} {events : List Event}
    {a : Answer} (h : a ∈ m.answers (events.map .event)) :
    ∃ before e after, events = before ++ e :: after ∧ a = .reply ((m.run before).step e).1 := by
  induction events generalizing m with
  | nil => contradiction
  | cons e events ih =>
      obtain rfl | h := List.mem_cons.1 h
      · exact ⟨[], e, events, rfl, rfl⟩
      · obtain ⟨before, e', after, rfl, rfl⟩ := ih h
        exact ⟨e :: before, e', after, rfl, rfl⟩

end Monitor

namespace SharedMonitor

open Monitor (Event Call)

variable (m : Monitor)

/-- Observing a frame through a handle is observing it. -/
theorem observe_share (f : Frame) (streamId : String) (now : Nat) :
    (new m.conf).observe m.share f streamId now =
      ((m.observe f streamId now).1, (m.observe f streamId now).2.share) := by
  simp only [observe, SharedTracks.withTrack, Monitor.share, Monitor.observe]
  cases m.tracks.get f.systemId with
  | none => rfl
  | some t => rfl

/-- Observing through a handle that a frame may not be used is observing it. -/
theorem observeInvalid_share (systemId : UInt8) (streamId : String) (now : Nat)
    (reason : FailureReason) :
    (new m.conf).observeInvalid m.share systemId streamId now reason =
      ((m.observeInvalid systemId streamId now reason).1,
        (m.observeInvalid systemId streamId now reason).2.share) := by
  simp only [observeInvalid, SharedTracks.withTrack, Monitor.share, Monitor.observeInvalid]
  cases m.tracks.get systemId with
  | none => rfl
  | some t => rfl

/-- **Sweeping one system after the other** is sweeping all at once. -/
theorem sweep_share (now : Nat) :
    (new m.conf).sweep m.share now = ((m.sweep now).1, (m.sweep now).2.share) := by
  obtain ⟨hresult, htracks⟩ :=
    foldl_sweepOne (new m.conf) now [] m.share m.share.nodup_systemIds
  refine Prod.ext (hresult.trans ?_) (congrArg SharedTracks.mk (Slots.ext_get fun i => ?_))
  · rw [List.nil_append, ← SweepResult.total_map_filterMap, SharedTracks.filterMap_systemIds,
      Monitor.sweep_fst, ← SweepResult.total_map_filterMap, ← Slots.entries_eq]
    rfl
  · rw [Monitor.get_sweep]
    refine (htracks i).trans ?_
    split
    · rfl
    · next hunknown =>
        rw [SharedTracks.mem_systemIds, Option.not_isSome_iff_eq_none] at hunknown
        rw [hunknown]
        exact (congrArg (Option.bind · _) hunknown).symm

/-- **An event that is brought through a handle** has the reply and the effect that it has on a
plain monitor. -/
theorem step_share (e : Event) :
    (new m.conf).step m.share e = ((m.step e).1, (m.step e).2.share) := by
  cases e with
  | frame f streamId now => rw [step, observe_share]; rfl
  | invalid systemId streamId now reason => rw [step, observeInvalid_share]; rfl
  | sweep now => rw [step, sweep_share]; rfl

/-- The tracks after several events are those of a plain monitor. -/
theorem run_share {events : List (SharedMonitor × Event)}
    (hhandles : ∀ x ∈ events, x.1 = new m.conf) :
    m.share.run events = (m.run (events.map Prod.snd)).share := by
  induction events generalizing m with
  | nil => rfl
  | cons x events ih =>
      obtain ⟨h, e⟩ := x
      obtain ⟨rfl, hrest⟩ := List.forall_mem_cons.1 hhandles
      rw [SharedTracks.run, List.foldl_cons, step_share]
      exact ih (m.step e).2 fun x hx => by rw [hrest x hx, Monitor.conf_step]

/-- A snapshot through a handle is that of the plain monitor. -/
theorem snapshot?_share (systemId : UInt8) :
    (new m.conf).snapshot? m.share systemId = m.snapshot? systemId := by
  rw [snapshot?, SharedTracks.withTrack, Monitor.snapshot?, Monitor.share]
  cases m.tracks.get systemId with
  | none => rfl
  | some t => rfl

/-- The snapshots through a handle are those of the plain monitor. -/
theorem snapshots_share : (new m.conf).snapshots m.share = m.snapshots := by
  have hsnapshot : (new m.conf).snapshot? m.share =
      fun systemId => (m.share.tracks.get systemId).map Track.snapshot :=
    funext (snapshot?_share m)
  rw [snapshots, hsnapshot, ← List.map_filterMap, SharedTracks.filterMap_systemIds]
  rfl

/-- A handle counts as many systems as the plain monitor. -/
theorem size_share : m.share.size = m.size := by
  have hfound : ∀ id ∈ m.share.systemIds, (m.share.tracks.get id).isSome = true :=
    fun id => SharedTracks.mem_systemIds.1
  have hlength : (m.share.systemIds.filterMap m.share.tracks.get).length =
      m.share.systemIds.length := List.filterMap_length_eq_length.2 hfound
  rw [SharedTracks.filterMap_systemIds] at hlength
  exact hlength.symm

/-- A handle knows no system exactly if the plain monitor knows none. -/
theorem isEmpty_share : m.share.isEmpty = m.isEmpty := by
  rw [Monitor.isEmpty, ← size_share, SharedTracks.isEmpty, SharedTracks.size]
  cases m.share.systemIds with
  | nil => rfl
  | cons id ids => rfl

/-- **A call through a handle** returns what it returns from a plain monitor with the same tracks,
and does the same to the tracks. -/
theorem call_share (c : Call) :
    (new m.conf).call m.share c = ((m.call c).1, (m.call c).2.share) := by
  cases c with
  | event e => rw [call, step_share]; rfl
  | snapshot systemId => rw [call, snapshot?_share]; rfl
  | snapshots => rw [call, snapshots_share]; rfl
  | size => rw [call, size_share]; rfl
  | isEmpty => rw [call, isEmpty_share]; rfl

/-- **Calls through handles**, one after the other, are answered as by the plain monitor. -/
theorem answers_share {calls : List (SharedMonitor × Call)}
    (hhandles : ∀ x ∈ calls, x.1 = new m.conf) :
    m.share.answers calls = m.answers (calls.map Prod.snd) := by
  induction calls generalizing m with
  | nil => rfl
  | cons x calls ih =>
      obtain ⟨h, c⟩ := x
      obtain ⟨rfl, hrest⟩ := List.forall_mem_cons.1 hhandles
      rw [SharedTracks.answers, call_share, List.map_cons, Monitor.answers]
      exact congrArg _ (ih (m.call c).2 fun x hx => by rw [hrest x hx, Monitor.conf_call])

/-- **A shared monitor refines the plain one.** Calls come one after the other, each through any of
the clones of a handle. Then every call returns what it returns from a plain monitor with the same
configuration that gets the same calls. -/
theorem answers_eq (conf : MonitorConf) (calls : List (SharedMonitor × Call))
    (hclones : ∀ x ∈ calls, (new conf).IsCloneOf x.1) :
    SharedTracks.empty.answers calls = (Monitor.new conf).answers (calls.map Prod.snd) :=
  answers_share (Monitor.new conf) fun x hx => (hclones x hx).eq

/-- Two clones of a handle are used in turn: one brings a frame, and the other a frame that may not
be used, which is reported because the system is known. -/
theorem answers_eq_twoClones :
    let h := (new {}).clone
    let calls : List (SharedMonitor × Call) :=
      [(h, .event (.frame (Sample.frame 1 7) "udp" 0)),
        (h.clone, .event (.invalid 1 "tcp" 1 .crcFailed))]
    (∀ x ∈ calls, (new {}).IsCloneOf x.1) ∧
      SharedTracks.empty.answers calls = (Monitor.new {}).answers (calls.map Prod.snd) ∧
      (SharedTracks.empty.answers calls).getLast? = some (.reply (.detections
        [⟨1, "tcp", 1, .frameInvalid, .warn, "CRC_FAILED"⟩])) := by
  intro h calls
  have hclone : (new {}).IsCloneOf h := .clone .self
  have hclones : ∀ x ∈ calls, (new {}).IsCloneOf x.1 := by
    intro x hx
    simp only [calls, List.mem_cons, List.not_mem_nil, or_false] at hx
    obtain rfl | rfl := hx
    · exact hclone
    · exact hclone.clone
  exact ⟨hclones, answers_eq {} calls hclones, by decide +kernel⟩

end SharedMonitor

end Mavlink
