import Mavlink.Proofs.Health.Counters
import Mavlink.Proofs.Health.Totals

/-!
# The accounts of a track

The accounts of a track balance. Each counter is the number of detections of its kind. Each frame is
of one class only, so that the frames add up. The head is as far from the first frame as the frames
that came and the frames that were lost make it. The sources share out the frames among them as long
as none is forgotten.

## Main results

* `Track.class_frame`, `Track.class_run`: a frame moves the head, or yields exactly one detection of
  four kinds.
* `Track.head_step`, `Track.head_run`: where an event and a run move the head.
* `Track.balanced_run`: the accounts of a system from its first frame on.
-/

namespace Mavlink

namespace Track

/-! ### Classes of frames -/

/-- Whether an event moves the head to another number. -/
def Advances (c : MonitorConf) (t : Track) (e : Event) : Prop :=
  (t.step c e).2.head?.map Head.sequence ≠ t.head?.map Head.sequence

instance (c : MonitorConf) (t : Track) (e : Event) : Decidable (t.Advances c e) :=
  inferInstanceAs (Decidable (_ ≠ _))

/-- How often a run moves the head to another number. -/
def advances (c : MonitorConf) (t : Track) (events : List Event) : Nat :=
  (t.trace c events).countP fun (t, e) => t.Advances c e

end Track

namespace Arrival

/-- A frame behind the head does not become the head. -/
theorem isAccepted_behind (c : SequenceConf) (head : Head) (sequence : UInt8) (now : Nat) :
    (behind c head sequence now).isAccepted = false := by
  rw [behind]
  split <;> rfl

/-- A frame that becomes the head after another one is as far ahead of it as the frames that are
lost and itself make it. -/
theorem exists_lost_of_isAccepted_relative {c : SequenceConf} {head : Head} {sequence : UInt8}
    {now : Nat} (h : (relative c head sequence now).isAccepted = true) :
    ∃ lost < 127, sequence = head.sequence + UInt8.ofNat (lost + 1) ∧
      relative c head sequence now = .ahead lost := by
  rw [relative] at h ⊢
  by_cases hsame : sequence - head.sequence = 0
  · rw [if_pos hsame] at h
    contradiction
  · by_cases hahead : sequence - head.sequence ≤ maxAhead
    · rw [if_neg hsame, if_pos hahead]
      have hpos : (sequence - head.sequence).toNat ≠ 0 := fun hzero =>
        hsame (UInt8.toNat_inj.1 hzero)
      have hle : (sequence - head.sequence).toNat ≤ 127 := UInt8.le_iff_toNat_le.1 hahead
      have hlost : (sequence - head.sequence).toNat - 1 + 1 = (sequence - head.sequence).toNat :=
        Nat.succ_pred hpos
      refine ⟨(sequence - head.sequence).toNat - 1, by omega, ?_, rfl⟩
      rw [hlost, UInt8.ofNat_toNat, UInt8.add_comm, UInt8.sub_add_cancel]
    · rw [if_neg hsame, if_neg hahead, isAccepted_behind] at h
      contradiction

/-- **Accepted frames**: a frame that becomes the head is the first one, or ahead of the head. -/
theorem eq_of_isAccepted_classify {c : SequenceConf} {last? : Option Sighting}
    {head? : Option Head} {sequence : UInt8} {fingerprint : UInt32} {now : Nat}
    (h : (classify c last? head? sequence fingerprint now).isAccepted = true) :
    (head? = none ∧ classify c last? head? sequence fingerprint now = .first) ∨
      ∃ head, head? = some head ∧ ∃ lost < 127,
        sequence = head.sequence + UInt8.ofNat (lost + 1) ∧
        classify c last? head? sequence fingerprint now = .ahead lost := by
  simp only [classify] at h ⊢
  cases hlast : last?.filter fun last => seenWithin now last.seenAt c.duplicateTime with
  | some last =>
      simp only [hlast] at h
      split at h <;> contradiction
  | none =>
      simp only [hlast] at h ⊢
      cases head? with
      | none => exact .inl ⟨rfl, rfl⟩
      | some head => exact .inr ⟨head, rfl, exists_lost_of_isAccepted_relative h⟩

open Finding (numberOf)

/-- An arrival is accepted, or it yields exactly one finding of four kinds. -/
theorem class_findings (a : Arrival) (sequence : UInt8) :
    (if a.isAccepted then 1 else 0) + (numberOf .duplicate (a.findings sequence) +
      numberOf .conflict (a.findings sequence) + numberOf .reorder (a.findings sequence) +
      numberOf .suspiciousBackward (a.findings sequence)) = 1 := by
  cases a with
  | first | duplicate | conflict _ | late _ => rfl
  | ahead lost =>
      by_cases hlost : lost = 0
      · rw [findings, if_pos hlost]
        rfl
      · rw [findings, if_neg hlost]
        rfl
  | backward back alarming restartedFrom? => cases restartedFrom? <;> rfl

/-- An arrival is never found to be invalid: only frames that may be used arrive. -/
theorem numberOf_frameInvalid_findings (a : Arrival) (sequence : UInt8) :
    numberOf .frameInvalid (a.findings sequence) = 0 := by
  cases a with
  | first | duplicate | conflict _ | late _ => rfl
  | ahead lost =>
      rw [findings]
      split <;> rfl
  | backward back alarming restartedFrom? => cases restartedFrom? <;> rfl

/-- How many frames the arrival of a frame shows to be lost. -/
def lost : Arrival → Nat
  | ahead lost => lost
  | _ => 0

/-- What is found about an arrival reports the frames that it shows to be lost. -/
theorem totalLost_findings (a : Arrival) (sequence : UInt8) :
    Finding.totalLost (a.findings sequence) = a.lost := by
  cases a with
  | first | duplicate | conflict _ | late _ => rfl
  | ahead lost =>
      by_cases hlost : lost = 0
      · rw [findings, if_pos hlost]
        exact hlost.symm
      · rw [findings, if_neg hlost]
        rfl
  | backward back alarming restartedFrom? => cases restartedFrom? <;> rfl

/-- Only a frame that becomes the head shows that others are lost. -/
theorem lost_eq_zero {a : Arrival} (h : a.isAccepted = false) : a.lost = 0 := by
  cases a with
  | first | ahead _ => contradiction
  | duplicate | conflict _ | late _ | backward _ _ _ => rfl

end Arrival

namespace Track

open Detection (numberOf numberHeld)

/-! ### Events and classes -/

/-- A number up to 127 leads away from a sequence number. -/
theorem ne_add_ofNat {sequence : UInt8} {lost : Nat} (h : lost < 127) :
    sequence + UInt8.ofNat (lost + 1) ≠ sequence := by
  intro heq
  have htoNat := congrArg UInt8.toNat heq
  rw [UInt8.toNat_add, UInt8.toNat_ofNat'] at htoNat
  have hlt := sequence.toNat_lt
  omega

section Step

variable (c : MonitorConf) (t : Track) (f : Frame) (streamId : String) (now : Nat)

/-- A frame moves the head exactly if it is accepted. -/
theorem advances_frame_iff :
    t.Advances c (.frame f streamId now) ↔ (t.arrival c.sequence f now).isAccepted = true := by
  rw [Advances, head?_step_frame]
  by_cases haccepted : (t.arrival c.sequence f now).isAccepted = true
  · rw [if_pos haccepted]
    refine iff_of_true ?_ haccepted
    obtain ⟨hnone, -⟩ | ⟨head, hsome, lost, hlost, hsequence, -⟩ :=
      Arrival.eq_of_isAccepted_classify haccepted
    · rw [hnone]
      exact Option.some_ne_none _
    · rw [hsome, hsequence]
      intro heq
      exact ne_add_ofNat hlost (Option.some.inj heq)
  · rw [if_neg haccepted]
    exact iff_of_false (fun h => h rfl) haccepted

/-- Without a frame the head does not move. -/
theorem not_advances {e : Event} (h : e.frame? = none) : ¬ t.Advances c e := by
  rw [Advances, head?_step h]
  exact fun hne => hne rfl

/-- What arbitration finds is about streams only. -/
theorem numberOf_detect_frame {kind : DetectionKind} (h : kind ≠ .multiSource) :
    numberOf kind (t.detect c (.frame f streamId now)) =
      Finding.numberOf kind ((t.arrival c.sequence f now).findings f.sequence) := by
  obtain ⟨primary?, hfindings⟩ := findings_observe c.sequence t f streamId now
  have hother : Finding.numberOf kind (primary?.toList.map .multiSource) = 0 := by
    cases primary? with
    | none => rfl
    | some primary =>
        refine List.countP_eq_zero.2 fun x hx => ?_
        obtain rfl := List.mem_singleton.1 hx
        exact fun hkind => h (of_decide_eq_true hkind).symm
  rw [numberOf_detect]
  show Finding.numberOf kind (t.observe c.sequence f streamId now).1 = _
  rw [hfindings, Finding.numberOf_append, hother, Nat.add_zero]

/-- **Every frame is of one class**: it moves the head, or it yields exactly one detection that says
why it does not. -/
theorem class_frame :
    (if t.Advances c (.frame f streamId now) then 1 else 0) +
      numberHeld (t.detect c (.frame f streamId now)) = 1 := by
  simp only [advances_frame_iff, numberHeld]
  rw [numberOf_detect_frame c t f streamId now (by decide),
    numberOf_detect_frame c t f streamId now (by decide),
    numberOf_detect_frame c t f streamId now (by decide),
    numberOf_detect_frame c t f streamId now (by decide)]
  exact (t.arrival c.sequence f now).class_findings f.sequence

/-- The frames that a frame shows to be lost are those of its arrival. -/
theorem totalLost_frame :
    Finding.totalLost (t.step c (.frame f streamId now)).1 = (t.arrival c.sequence f now).lost := by
  obtain ⟨primary?, hfindings⟩ := findings_observe c.sequence t f streamId now
  have hother : Finding.totalLost (primary?.toList.map .multiSource) = 0 := by
    cases primary? <;> rfl
  show Finding.totalLost (t.observe c.sequence f streamId now).1 = _
  rw [hfindings, Finding.totalLost_append, hother, Nat.add_zero, Arrival.totalLost_findings]

end Step

/-- An event with a frame adds one to one class, and any other event adds to none. -/
theorem class_step (c : MonitorConf) (t : Track) (e : Event) :
    (if t.Advances c e then 1 else 0) + numberHeld (t.detect c e) = frames [e] := by
  cases e with
  | frame f streamId now => exact class_frame c t f streamId now
  | invalid streamId now reason | sweep now =>
      rw [if_neg (not_advances c t rfl)]
      rfl

/-- The first event of a run moves the head or does not, and the others do the rest. -/
theorem advances_cons (c : MonitorConf) (t : Track) (e : Event) (events : List Event) :
    t.advances c (e :: events) =
      (t.step c e).2.advances c events + if t.Advances c e then 1 else 0 := by
  rw [advances, trace, List.countP_cons, advances]
  simp only [decide_eq_true_eq]

/-- **The frames of a run** fall into the classes. -/
theorem class_run (c : MonitorConf) (t : Track) (events : List Event) :
    t.advances c events + numberHeld (t.detections c events) = frames events := by
  induction events generalizing t with
  | nil => rfl
  | cons e events ih =>
      have hstep := class_step c t e
      have hrun := ih (t.step c e).2
      have hheld : numberHeld (t.detections c (e :: events)) =
          numberHeld (t.detect c e) + numberHeld ((t.step c e).2.detections c events) :=
        Detection.numberHeld_append _ _
      rw [advances_cons, frames_cons]
      omega

/-! ### The head over a run -/

/-- **Where an event moves the head**: by the frames that it shows to be lost, and by one more if it
moves the head at all. -/
theorem head_step (c : MonitorConf) {t : Track} {head : Head} (h : t.head? = some head)
    (e : Event) :
    (t.step c e).2.head?.map Head.sequence =
      some (head.sequence + UInt8.ofNat (Finding.totalLost (t.step c e).1 +
        if t.Advances c e then 1 else 0)) := by
  cases e with
  | frame f streamId now =>
      simp only [advances_frame_iff]
      rw [totalLost_frame, head?_step_frame]
      by_cases haccepted : (t.arrival c.sequence f now).isAccepted = true
      · obtain ⟨hnone, -⟩ | ⟨head', hsome, lost, -, hsequence, harrival⟩ :=
          Arrival.eq_of_isAccepted_classify haccepted
        · rw [h] at hnone
          contradiction
        · obtain rfl : head = head' := Option.some.inj (h.symm.trans hsome)
          have hlost : (t.arrival c.sequence f now).lost = lost := congrArg Arrival.lost harrival
          rw [if_pos haccepted, if_pos haccepted, hlost, ← hsequence]
          rfl
      · rw [if_neg haccepted, if_neg haccepted, h,
          Arrival.lost_eq_zero (Bool.eq_false_iff.2 haccepted)]
        exact congrArg some (UInt8.add_zero _).symm
  | invalid streamId now reason | sweep now =>
      rw [head?_step rfl, if_neg (not_advances c t rfl), h]
      exact congrArg some (UInt8.add_zero _).symm

/-- **Where a run moves the head.** -/
theorem head_run (c : MonitorConf) {t : Track} {head : Head} (h : t.head? = some head)
    (events : List Event) :
    (t.run c events).head?.map Head.sequence =
      some (head.sequence + UInt8.ofNat (Finding.totalLost (t.findings c events) +
        t.advances c events)) := by
  induction events generalizing t head with
  | nil =>
      rw [run, List.foldl_nil, h]
      exact congrArg some (UInt8.add_zero _).symm
  | cons e events ih =>
      obtain ⟨head', h', hsequence⟩ := Option.map_eq_some_iff.1 (head_step c h e)
      have hlost : Finding.totalLost (t.findings c (e :: events)) =
          Finding.totalLost (t.step c e).1 +
            Finding.totalLost ((t.step c e).2.findings c events) := by
        rw [findings_cons, Finding.totalLost_append]
      -- What the first event adds and what the others add are summed before they become a byte.
      rw [run_cons, ih h', hsequence, hlost, advances_cons, UInt8.add_assoc, ← UInt8.ofNat_add]
      congr 3
      omega

/-- The frames that may not be used are the ones that are reported as such. -/
theorem numberOf_frameInvalid (c : MonitorConf) (t : Track) (events : List Event) :
    numberOf .frameInvalid (t.detections c events) = rejected events := by
  induction events generalizing t with
  | nil => rfl
  | cons e events ih =>
      have hstep : numberOf .frameInvalid (t.detect c e) = rejected [e] := by
        cases e with
        | frame f streamId now =>
            rw [numberOf_detect_frame c t f streamId now (by decide)]
            exact Arrival.numberOf_frameInvalid_findings _ _
        | invalid streamId now reason | sweep now => rfl
      rw [rejected_cons, ← hstep, ← ih (t.step c e).2]
      exact Detection.numberOf_append _ _ _

/-! ### From the first frame on -/

/-- The first frame of a system becomes the head. -/
theorem head?_first (c : MonitorConf) (systemId : UInt8) (f : Frame) (streamId : String)
    (now : Nat) :
    ((new systemId).step c (.frame f streamId now)).2.head? = some ⟨f.sequence, now⟩ := by
  rw [head?_step_frame, arrival_new]
  rfl

/-- The first frame of a system moves the head. -/
theorem advances_first (c : MonitorConf) (systemId : UInt8) (f : Frame) (streamId : String)
    (now : Nat) (events : List Event) :
    (new systemId).advances c (.frame f streamId now :: events) =
      ((new systemId).step c (.frame f streamId now)).2.advances c events + 1 := by
  have hfirst : (new systemId).Advances c (.frame f streamId now) := by
    rw [advances_frame_iff, arrival_new]
    rfl
  rw [advances_cons, if_pos hfirst]

/-- The first frame of a system does not show that frames are lost. -/
theorem totalLost_first (c : MonitorConf) (systemId : UInt8) (f : Frame) (streamId : String)
    (now : Nat) (events : List Event) :
    Finding.totalLost ((new systemId).findings c (.frame f streamId now :: events)) =
      Finding.totalLost (((new systemId).step c (.frame f streamId now)).2.findings c events) := by
  have hfirst : Finding.totalLost ((new systemId).step c (.frame f streamId now)).1 = 0 := by
    rw [totalLost_frame, arrival_new]
    rfl
  rw [findings_cons, Finding.totalLost_append, hfirst, Nat.zero_add]

/-- **The accounts balance.** Of a system that was made by its first frame, and of whatever has
happened to it since:

* every counter is the number of detections of its kind that were reported, and the number of lost
  frames is the sum of the figures that the reported gaps name;
* the next frame moves the head, or is reported in exactly one of four ways, and so the frames up to
  now are the first one, those that moved the head, and those that were reported in these ways;
* the head is as far from the first frame as the frames that were lost and the moves of the head
  make it;
* if no sweep has forgotten a source, the sources share out the frames among them, those that may
  be used and those that may not. -/
theorem balanced_run (c : MonitorConf) (systemId : UInt8) (f : Frame) (streamId : String)
    (now : Nat) (events : List Event) :
    let first := Event.frame f streamId now
    let made := ((new systemId).step c first).2
    let t := made.run c events
    let reports := (new systemId).detections c (first :: events)
    (∀ kind, t.counters.count? kind =
      if kind = .conflict then none else some (numberOf kind reports)) ∧
    (∃ lost : List Nat, t.counters.lostPackets = lost.sum ∧
      (reports.filter fun d => d.kind = .gap).map Detection.details =
        lost.map fun figure => "lost=" ++ toString figure) ∧
    (∀ next streamId now, let answer := t.detect c (.frame next streamId now)
      (if t.Advances c (.frame next streamId now) then 1 else 0) + (numberOf .duplicate answer +
        numberOf .conflict answer + numberOf .reorder answer +
        numberOf .suspiciousBackward answer) = 1) ∧
    frames (first :: events) = 1 + made.advances c events + (numberOf .duplicate reports +
      numberOf .conflict reports + numberOf .reorder reports +
      numberOf .suspiciousBackward reports) ∧
    t.head?.map Head.sequence =
      some (f.sequence + UInt8.ofNat (t.counters.lostPackets + made.advances c events)) ∧
    ((new systemId).KeepsSources c (first :: events) →
      t.total Source.packets = frames (first :: events) ∧
      t.total Source.invalid = t.counters.invalidFrames) := by
  intro first made t reports
  have hcounts : ({} : Counters).Counts ((new systemId).findings c (first :: events)) t.counters :=
    counts_run c (new systemId) (first :: events)
  have hcount : ∀ kind, t.counters.count? kind =
      if kind = .conflict then none else some (numberOf kind reports) := by
    intro kind
    rw [hcounts.count?_eq, ← numberOf_detections]
    cases kind with
    | conflict => rfl
    | _ => exact congrArg some (Nat.zero_add _)
  have hlost : t.counters.lostPackets =
      Finding.totalLost ((new systemId).findings c (first :: events)) := by
    rw [hcounts.lostPackets_eq]
    exact Nat.zero_add _
  refine ⟨hcount, ⟨_, hlost, details_detections c _ _⟩, class_frame c t, ?_, ?_, ?_⟩
  · have hclass : (new systemId).advances c (first :: events) + numberHeld reports =
        frames (first :: events) := class_run c (new systemId) (first :: events)
    have hadvances : (new systemId).advances c (first :: events) = made.advances c events + 1 :=
      advances_first c systemId f streamId now events
    rw [hadvances, numberHeld] at hclass
    omega
  · rw [head_run c (head?_first c systemId f streamId now) events, hlost, totalLost_first]
  · intro hkeeps
    have hinvalid : some t.counters.invalidFrames = some (rejected (first :: events)) :=
      (hcount .frameInvalid).trans (congrArg some (numberOf_frameInvalid c _ _))
    obtain ⟨hpackets, hrejected⟩ := totals_run_new c systemId hkeeps
    exact ⟨hpackets, hrejected.trans (Option.some.inj hinvalid).symm⟩

/-- A system is heard over two streams, with a gap, a frame that may not be used, and a sweep that
finds both streams active: each source counts its own frames. -/
theorem balanced_run_twoStreams :
    let first := Event.frame (Sample.frame 1 254) "udp" 5
    let later := [Event.frame (Sample.frame 1 1) "tcp" 7, .invalid "udp" 8 .crcFailed, .sweep 9]
    let t := ((new 1).step {} first).2.run {} later
    (new 1).KeepsSources {} (first :: later) ∧ t.total Source.packets = 2 ∧
      t.total Source.invalid = 1 ∧ t.head?.map Head.sequence = some 1 := by
  intro first later t
  have hkeeps : (new 1).KeepsSources {} (first :: later) := by decide +kernel
  obtain ⟨-, -, -, -, -, htotal⟩ := balanced_run {} 1 (Sample.frame 1 254) "udp" 5 later
  obtain ⟨hpackets, hinvalid⟩ := htotal hkeeps
  have hframes : frames (first :: later) = 2 := rfl
  have hcount : t.counters.invalidFrames = 1 := by decide +kernel
  have hhead : t.head?.map Head.sequence = some 1 := by decide +kernel
  exact ⟨hkeeps, hpackets.trans hframes, hinvalid.trans hcount, hhead⟩

end Track

end Mavlink
