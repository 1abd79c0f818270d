import Mathlib.Data.List.Forall2
import Mavlink.Proofs.Health.Track

/-!
# Classification by history

A track keeps one sighting for each sequence number and the head. This module judges a frame by the
list of all earlier frames instead, and shows that the two agree over every run. The judgement is
written down on its own: distances between sequence numbers are natural numbers, and the head is
found by going back through the list.

A history is a list of occurrences with the latest one first.

## Main results

* `History.agrees_classify`: the classification of arrivals agrees with the judgement.
* `Track.remembers_step`, `Track.remembers_run`: what a track remembers of a history.
* `Track.observe_by_history`: what is reported of a frame, and the head, follow from the history.
-/

namespace Mavlink

/-! ### Judging by history -/

/-- A frame as a history knows it. -/
structure Occurrence where
  sequence : UInt8
  fingerprint : UInt32
  time : Nat
  deriving DecidableEq, Repr

/-- What is to be reported, without its text: the figure is the number of frames that were lost, or
how far back a frame is. -/
structure Notice where
  kind : DetectionKind
  severity : Severity
  figure? : Option Nat := none
  deriving DecidableEq, Repr

/-- What a history says about a frame. -/
structure Judgement where
  /-- Whether the frame becomes the head. -/
  advances : Bool
  notices : List Notice
  deriving DecidableEq, Repr

namespace Occurrence

/-- Whether a frame comes at most `window` after an earlier one, and not before it. -/
def IsWithin (window : Nat) (earlier o : Occurrence) : Prop :=
  earlier.time ≤ o.time ∧ o.time - earlier.time ≤ window

instance (window : Nat) (earlier o : Occurrence) : Decidable (IsWithin window earlier o) :=
  inferInstanceAs (Decidable (_ ∧ _))

/-- The distance from one frame's number to another's, counted modulo 256. -/
def distance (first second : Occurrence) : Nat :=
  (second.sequence.toNat + 256 - first.sequence.toNat) % 256

/-- Whether a frame far behind the head looks like a restart of the sender. -/
def IsRestart (c : SequenceConf) (head o : Occurrence) : Prop :=
  50 ≤ head.sequence.toNat ∧ head.sequence.toNat ≤ 200 ∧ o.sequence.toNat ≤ 10 ∧
    head.time ≤ o.time ∧ c.multiSourceWindow < o.time - head.time

instance (c : SequenceConf) (head o : Occurrence) : Decidable (IsRestart c head o) :=
  inferInstanceAs (Decidable (_ ∧ _ ∧ _ ∧ _ ∧ _))

end Occurrence

namespace History

open Occurrence

/-- The last frame with a sequence number. -/
def lastWith (sequence : UInt8) (h : List Occurrence) : Option Occurrence :=
  h.find? fun o => o.sequence = sequence

/-- The judgement of a frame by the head. -/
def judgeByHead (c : SequenceConf) (head o : Occurrence) : Judgement :=
  let ahead := distance head o
  let back := 256 - ahead
  if ahead = 0 then ⟨false, [⟨.duplicate, .info, none⟩]⟩
  else if ahead ≤ 127 then
    ⟨true, if 1 < ahead then [⟨.gap, .warn, some (ahead - 1)⟩] else []⟩
  else if back ≤ c.reorderDistance.toNat ∧ IsWithin c.reorderTime head o then
    ⟨false, [⟨.reorder, .info, some back⟩]⟩
  else
    let severity := if c.suspiciousDistance.toNat ≤ back then Severity.alert else Severity.warn
    ⟨false, ⟨.suspiciousBackward, severity, some back⟩ ::
      if IsRestart c head o then [⟨.resetSuspected, .warn, none⟩] else []⟩

/-- The judgement of a frame by the last frame with its sequence number and by the head. -/
def judgeBy (c : SequenceConf) (last? head? : Option Occurrence) (o : Occurrence) : Judgement :=
  match last?.filter fun last => IsWithin c.duplicateTime last o with
  | some last =>
    if last.fingerprint = o.fingerprint then ⟨false, [⟨.duplicate, .info, none⟩]⟩
    else ⟨false, [⟨.conflict, .alert, none⟩]⟩
  | none =>
    match head? with
    | none => ⟨true, []⟩
    | some head => judgeByHead c head o

/-- The head after a history: the last frame that became the head. -/
def head? (c : SequenceConf) : List Occurrence → Option Occurrence
  | [] => none
  | o :: earlier =>
    if (judgeBy c (lastWith o.sequence earlier) (head? c earlier) o).advances then some o
    else head? c earlier

/-- The judgement of a frame by the history before it. -/
def judge (c : SequenceConf) (earlier : List Occurrence) (o : Occurrence) : Judgement :=
  judgeBy c (lastWith o.sequence earlier) (head? c earlier) o

/-- The latest frame is the head if it is judged to be, and otherwise the head stays. -/
theorem head?_cons (c : SequenceConf) (o : Occurrence) (earlier : List Occurrence) :
    head? c (o :: earlier) = if (judge c earlier o).advances then some o else head? c earlier :=
  rfl

/-- The latest frame is the last one with its own number. -/
theorem lastWith_cons (sequence : UInt8) (o : Occurrence) (earlier : List Occurrence) :
    lastWith sequence (o :: earlier) =
      if o.sequence = sequence then some o else lastWith sequence earlier := by
  rw [lastWith, List.find?_cons]
  by_cases h : o.sequence = sequence
  · simp [h]
  · simp [h, lastWith]

end History

/-! ### Reports -/

namespace DetectionKind

/-- Whether detections of the kind are about sequence numbers. -/
def isSequential : DetectionKind → Bool
  | multiSource | frameInvalid => false
  | _ => true

end DetectionKind

namespace Finding

/-- The figure of the finding, if it has one. -/
def figure? : Finding → Option Nat
  | gap lost => some lost
  | reorder back => some back
  | suspiciousBackward back _ => some back
  | _ => none

/-- The finding without its text, if it is about sequence numbers. -/
def notice? (x : Finding) : Option Notice :=
  if x.kind.isSequential then some ⟨x.kind, x.severity, x.figure?⟩ else none

end Finding

namespace Notice

/-- What the figure of a detection is called. -/
def label : DetectionKind → String
  | .gap => "lost="
  | _ => "back="

/-- Whether a detection reports what is to be reported. -/
structure IsReportedBy (n : Notice) (d : Detection) : Prop where
  kind_eq : d.kind = n.kind
  severity_eq : d.severity = n.severity
  details_eq : ∀ figure, n.figure? = some figure → d.details = label n.kind ++ toString figure

/-- A finding is reported with its kind, its severity and its figure. -/
theorem isReportedBy_report {x : Finding} {n : Notice} (h : x.notice? = some n)
    (systemId : UInt8) (streamId : String) (time : Nat) :
    n.IsReportedBy (x.report systemId streamId time) := by
  rw [Finding.notice?] at h
  split at h
  · obtain rfl := Option.some.inj h
    refine ⟨rfl, rfl, ?_⟩
    intro figure hfigure
    cases x with
    | gap lost | reorder back | suspiciousBackward back _ =>
        obtain rfl := Option.some.inj hfigure
        rfl
    | duplicate _ | conflict _ _ | resetSuspected _ _ | multiSource _ | frameInvalid _ =>
        contradiction
  · contradiction

/-- The reports about sequence numbers are those of the findings that are noticed. -/
theorem forall₂_isReportedBy (findings : List Finding) (systemId : UInt8) (streamId : String)
    (time : Nat) :
    List.Forall₂ IsReportedBy (findings.filterMap Finding.notice?)
      ((findings.map (Finding.report systemId streamId time)).filter fun d =>
        d.kind.isSequential) := by
  induction findings with
  | nil => exact .nil
  | cons x findings ih =>
      have hkind : (x.report systemId streamId time).kind = x.kind := rfl
      rw [List.filterMap_cons, List.map_cons, List.filter_cons, hkind]
      by_cases hsequential : x.kind.isSequential
      · have hx : x.notice? = some ⟨x.kind, x.severity, x.figure?⟩ := if_pos hsequential
        rw [hx, if_pos hsequential]
        exact .cons (isReportedBy_report hx systemId streamId time) ih
      · have hx : x.notice? = none := if_neg hsequential
        rw [hx, if_neg hsequential]
        exact ih

end Notice

/-! ### Arrivals agree with judgements -/

/-- What a history remembers of a sighting. -/
def Sighting.occurrence (s : Sighting) : Occurrence :=
  ⟨s.sequence, s.fingerprint, s.seenAt⟩

/-- The head that a frame becomes. -/
def Occurrence.toHead (o : Occurrence) : Head :=
  ⟨o.sequence, o.time⟩

/-- A frame becomes the head under its own number. -/
@[simp] theorem Occurrence.sequence_toHead (o : Occurrence) : o.toHead.sequence = o.sequence := rfl

/-- A frame becomes the head when it comes. -/
@[simp] theorem Occurrence.reachedAt_toHead (o : Occurrence) : o.toHead.reachedAt = o.time := rfl

/-- An arrival agrees with a judgement: they accept the same frames and report the same. -/
structure Arrival.Agrees (sequence : UInt8) (a : Arrival) (j : Judgement) : Prop where
  isAccepted_eq : a.isAccepted = j.advances
  notices_eq : (a.findings sequence).filterMap Finding.notice? = j.notices

namespace History

open Occurrence

/-- The test for what was seen within a window is right. -/
theorem seenWithin_eq_true_iff {window : Nat} {earlier o : Occurrence} :
    seenWithin o.time earlier.time window = true ↔ IsWithin window earlier o := by
  rw [seenWithin_iff, IsWithin]
  omega

/-- Going forward from one number to another is their distance. -/
theorem toNat_sub_eq_distance (first second : Occurrence) :
    (second.sequence - first.sequence).toNat = distance first second := by
  have hfirst := first.sequence.toNat_lt
  rw [UInt8.toNat_sub, distance]
  omega

/-- Going back from one number to another is going forward the rest of the circle. -/
theorem toNat_sub_eq_back {first second : Occurrence} (h : distance first second ≠ 0) :
    (first.sequence - second.sequence).toNat = 256 - distance first second := by
  have hfirst := first.sequence.toNat_lt
  have hsecond := second.sequence.toNat_lt
  rw [UInt8.toNat_sub]
  rw [distance] at h ⊢
  omega

/-- The test for a restart is right. -/
theorem isRestart_eq_true_iff {c : SequenceConf} {head o : Occurrence} :
    Arrival.isRestart c head.toHead o.sequence o.time = true ↔ IsRestart c head o := by
  simp only [Arrival.isRestart, toHead, Bool.and_eq_true, decide_eq_true_eq, UInt8.le_iff_toNat_le,
    olderThan_iff, IsRestart]
  have hlow : (50 : UInt8).toNat = 50 := rfl
  have hhigh : (200 : UInt8).toNat = 200 := rfl
  have hnew : (10 : UInt8).toNat = 10 := rfl
  omega

/-- A frame far behind is noticed, and so is the restart that it may be a sign of. -/
theorem notices_backward (sequence : UInt8) (back : Nat) (alarming : Bool)
    (restartedFrom? : Option UInt8) :
    ((Arrival.backward back alarming restartedFrom?).findings sequence).filterMap Finding.notice? =
      ⟨.suspiciousBackward, if alarming then .alert else .warn, some back⟩ ::
        restartedFrom?.toList.map fun _ => ⟨.resetSuspected, .warn, none⟩ := by
  cases restartedFrom? <;> rfl

/-- The arrival of a frame behind the head agrees with its judgement. -/
theorem agrees_behind {c : SequenceConf} {head o : Occurrence} (h : 127 < distance head o) :
    (Arrival.behind c head.toHead o.sequence o.time).Agrees o.sequence (judgeByHead c head o) := by
  have hback : (head.sequence - o.sequence).toNat = 256 - distance head o :=
    toNat_sub_eq_back (by omega)
  rw [judgeByHead, if_neg (by omega), if_neg (by omega), Arrival.behind]
  simp only [sequence_toHead, reachedAt_toHead, Bool.and_eq_true, decide_eq_true_eq,
    UInt8.le_iff_toNat_le, hback, seenWithin_eq_true_iff, isRestart_eq_true_iff]
  by_cases hlate : 256 - distance head o ≤ c.reorderDistance.toNat ∧ IsWithin c.reorderTime head o
  · rw [if_pos hlate, if_pos hlate]
    exact ⟨rfl, rfl⟩
  · rw [if_neg hlate, if_neg hlate]
    refine ⟨rfl, ?_⟩
    rw [notices_backward]
    by_cases hrestart : IsRestart c head o
    · simp [hrestart]
    · simp [hrestart]

/-- The arrival of a frame relative to the head agrees with its judgement. -/
theorem agrees_relative (c : SequenceConf) (head o : Occurrence) :
    (Arrival.relative c head.toHead o.sequence o.time).Agrees o.sequence
      (judgeByHead c head o) := by
  have hdelta : (o.sequence - head.sequence).toNat = distance head o :=
    toNat_sub_eq_distance head o
  have hmax : Arrival.maxAhead.toNat = 127 := rfl
  have hzero : (0 : UInt8).toNat = 0 := rfl
  rw [Arrival.relative]
  simp only [sequence_toHead, ← UInt8.toNat_inj, UInt8.le_iff_toNat_le, hdelta, hmax, hzero]
  by_cases hsame : distance head o = 0
  · rw [judgeByHead, if_pos hsame, if_pos hsame]
    exact ⟨rfl, rfl⟩
  · by_cases hahead : distance head o ≤ 127
    · rw [judgeByHead, if_neg hsame, if_pos hahead, if_neg hsame, if_pos hahead]
      refine ⟨rfl, ?_⟩
      by_cases hgap : 1 < distance head o
      · have hlost : distance head o - 1 ≠ 0 := by omega
        rw [Arrival.findings, if_pos hgap, if_neg hlost]
        rfl
      · have hlost : distance head o - 1 = 0 := by omega
        rw [Arrival.findings, if_neg hgap, if_pos hlost]
        rfl
    · rw [if_neg hsame, if_neg hahead]
      exact agrees_behind (Nat.lt_of_not_le hahead)

/-- **The classification of arrivals agrees with the judgement** by the last frame with the same
sequence number and by the head. -/
theorem agrees_classify (c : SequenceConf) (last? : Option Sighting) (head? : Option Occurrence)
    (o : Occurrence) :
    (Arrival.classify c last? (head?.map toHead) o.sequence o.fingerprint o.time).Agrees o.sequence
      (judgeBy c (last?.map Sighting.occurrence) head? o) := by
  -- A sighting and its occurrence are as old as each other, so both sides take up the same one.
  have hwithin : ∀ s : Sighting, decide (IsWithin c.duplicateTime s.occurrence o) =
      seenWithin o.time s.seenAt c.duplicateTime := by
    intro s
    rw [Bool.eq_iff_iff, decide_eq_true_iff]
    exact seenWithin_eq_true_iff.symm
  have hrecent : ((last?.map Sighting.occurrence).filter fun last =>
      IsWithin c.duplicateTime last o) =
        (last?.filter fun s => seenWithin o.time s.seenAt c.duplicateTime).map
          Sighting.occurrence := by
    rw [Option.filter_map]
    exact congrArg (fun p => (last?.filter p).map Sighting.occurrence) (funext hwithin)
  simp only [Arrival.classify, judgeBy, hrecent]
  cases last?.filter fun s => seenWithin o.time s.seenAt c.duplicateTime with
  | some s =>
      by_cases hsame : s.fingerprint = o.fingerprint
      · simp only [Option.map_some, Sighting.occurrence, if_pos hsame]
        exact ⟨rfl, rfl⟩
      · simp only [Option.map_some, Sighting.occurrence, if_neg hsame]
        exact ⟨rfl, rfl⟩
  | none =>
      cases head? with
      | none => exact ⟨rfl, rfl⟩
      | some head => exact agrees_relative c head o

end History

/-! ### What a track remembers -/

/-- A valid frame that came at a time, as a history knows it. -/
def Frame.occurrence (f : Frame) (time : Nat) : Occurrence :=
  ⟨f.sequence, f.fingerprint, time⟩

section Occurrence

variable (f : Frame) (time : Nat)

/-- A history knows a frame by its sequence number. -/
@[simp] theorem Frame.sequence_occurrence : (f.occurrence time).sequence = f.sequence := rfl

/-- A history knows a frame by its fingerprint. -/
@[simp] theorem Frame.fingerprint_occurrence : (f.occurrence time).fingerprint = f.fingerprint := by
  rw [occurrence]

/-- A history knows when a frame came. -/
@[simp] theorem Frame.time_occurrence : (f.occurrence time).time = time := rfl

end Occurrence

namespace Track

open History

/-- The history of the valid frames in several events. -/
def history (events : List Event) : List Occurrence :=
  ((events.filterMap Event.frame?).map fun (f, now) => f.occurrence now).reverse

/-- What a track remembers of a history: the last frame with each sequence number, and the head. -/
structure Remembers (c : SequenceConf) (t : Track) (h : List Occurrence) : Prop where
  ring_eq : ∀ sequence, (t.ring.get sequence).map Sighting.occurrence = lastWith sequence h
  head?_eq : t.head? = (History.head? c h).map Occurrence.toHead

/-- A new track remembers that nothing has come. -/
theorem remembers_new (c : SequenceConf) (systemId : UInt8) : (new systemId).Remembers c [] where
  ring_eq sequence := by
    show ((∅ : Slots Sighting).get sequence).map _ = none
    rw [Slots.get_empty]
    rfl
  head?_eq := rfl

/-- The arrival of a frame at a track agrees with the judgement by what the track remembers. -/
theorem agrees_arrival {c : SequenceConf} {t : Track} {h : List Occurrence}
    (ht : t.Remembers c h) (f : Frame) (now : Nat) :
    (t.arrival c f now).Agrees f.sequence (judge c h (f.occurrence now)) := by
  rw [arrival, ht.head?_eq, judge]
  have hring : (t.ring.get f.sequence).map Sighting.occurrence =
      lastWith (f.occurrence now).sequence h := ht.ring_eq f.sequence
  rw [← hring]
  have hclassify := agrees_classify c (t.ring.get f.sequence) (History.head? c h) (f.occurrence now)
  simp only [Frame.sequence_occurrence, Frame.fingerprint_occurrence, Frame.time_occurrence]
    at hclassify
  exact hclassify

/-- A frame is remembered. -/
theorem remembers_observe {c : SequenceConf} {t : Track} {h : List Occurrence}
    (ht : t.Remembers c h) (f : Frame) (streamId : String) (now : Nat) :
    (t.observe c f streamId now).2.Remembers c (f.occurrence now :: h) where
  ring_eq sequence := by
    rw [ring_observe, Slots.get_set, lastWith_cons, Frame.sequence_occurrence]
    by_cases hsame : f.sequence = sequence
    · rw [if_pos hsame, if_pos hsame, Option.map_some, Sighting.occurrence, Frame.occurrence]
    · rw [if_neg hsame, if_neg hsame]
      exact ht.ring_eq sequence
  head?_eq := by
    rw [head?_observe, head?_cons, (agrees_arrival ht f now).isAccepted_eq]
    by_cases hadvances : (judge c h (f.occurrence now)).advances = true
    · rw [if_pos hadvances, if_pos hadvances]
      rfl
    · rw [if_neg hadvances, if_neg hadvances]
      exact ht.head?_eq

/-- **What one event preserves.** -/
theorem remembers_step {c : MonitorConf} {t : Track} {h : List Occurrence}
    (ht : t.Remembers c.sequence h) (e : Event) :
    (t.step c e).2.Remembers c.sequence (history [e] ++ h) := by
  cases hframe : e.frame? with
  | some found =>
      cases e with
      | frame f streamId now => exact remembers_observe ht f streamId now
      | invalid streamId now reason => contradiction
      | sweep now => contradiction
  | none =>
      have hhistory : history [e] = [] := by
        rw [history, List.filterMap_cons, hframe]
        rfl
      rw [hhistory]
      constructor
      · rw [ring_step hframe]
        exact ht.ring_eq
      · rw [head?_step hframe]
        exact ht.head?_eq

/-- The first event is the oldest one in the history. -/
theorem history_cons (e : Event) (events : List Event) :
    history (e :: events) = history events ++ history [e] := by
  simp only [history]
  rw [← List.reverse_append, ← List.map_append, ← List.filterMap_append, List.singleton_append]

/-- **What a run preserves.** -/
theorem remembers_run {c : MonitorConf} {t : Track} {h : List Occurrence}
    (ht : t.Remembers c.sequence h) (events : List Event) :
    (t.run c events).Remembers c.sequence (history events ++ h) := by
  -- The events are taken up from the first one on, and the history grows at its front.
  induction events generalizing t h with
  | nil => exact ht
  | cons e events ih =>
      rw [history_cons, List.append_assoc]
      exact ih (remembers_step ht e)

/-- What is noticed about a frame's sequence number is what its judgement says. -/
theorem notices_observe {c : SequenceConf} {t : Track} {h : List Occurrence}
    (ht : t.Remembers c h) (f : Frame) (streamId : String) (now : Nat) :
    (t.observe c f streamId now).1.filterMap Finding.notice? =
      (judge c h (f.occurrence now)).notices := by
  obtain ⟨primary?, hfindings⟩ := findings_observe c t f streamId now
  have hother : (primary?.toList.map Finding.multiSource).filterMap Finding.notice? = [] := by
    cases primary? <;> rfl
  rw [hfindings, List.filterMap_append, hother, List.append_nil]
  exact (agrees_arrival ht f now).notices_eq

/-- **Classification by history.** Whatever has happened to a track since it was made, its head is
the head after the history of its valid frames, and so it is after the next frame; the detections
about sequence numbers that are reported of that frame are those that its judgement by the history
asks for, in the same order. -/
theorem observe_by_history (c : MonitorConf) (systemId : UInt8) (events : List Event) (f : Frame)
    (streamId : String) (now : Nat) :
    let t := (new systemId).run c events
    let detections := (t.observe c.sequence f streamId now).1.map
      (Finding.report systemId streamId now)
    t.head? = (History.head? c.sequence (history events)).map Occurrence.toHead ∧
      List.Forall₂ Notice.IsReportedBy
        (judge c.sequence (history events) (f.occurrence now)).notices
        (detections.filter fun d => d.kind.isSequential) ∧
      (t.observe c.sequence f streamId now).2.head? =
        if (judge c.sequence (history events) (f.occurrence now)).advances then
          some ⟨f.sequence, now⟩
        else t.head? := by
  intro t detections
  have ht : t.Remembers c.sequence (history events) := by
    have hrun := remembers_run (remembers_new c.sequence systemId) events
    rwa [List.append_nil] at hrun
  refine ⟨ht.head?_eq, ?_, ?_⟩
  · rw [← notices_observe ht f streamId now]
    exact Notice.forall₂_isReportedBy _ systemId streamId now
  · rw [head?_observe, (agrees_arrival ht f now).isAccepted_eq]

end Track

end Mavlink
