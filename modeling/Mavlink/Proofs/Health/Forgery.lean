import Mavlink.Proofs.Health.Isolation
import Mavlink.Proofs.Health.SweepCounts

/-!
# Forged frames are noticed

A frame with the sequence number of one that has just come is compared with it by a fingerprint of
32 bits only. Different frames can have the same fingerprint; but not if they differ in one place.
Each word of a frame is taken in by a step that keeps hashes apart and keeps words apart: adding a
word is undone by adding it again, and the factor of each step is odd. So a difference in one word
shows in the hash after it, and then in every later one.

What is compared is the last frame of the system with the number. It is remembered until another one
comes, or the system is forgotten, whatever else happens.

## Main results

* `Fingerprint.foldl_feed_left_inj`, `Fingerprint.foldl_feed_place_inj`: what a hash keeps apart.
* `Frame.fingerprint_ne_of_differsInOnePlace`: frames that differ in one place are told apart.
* `Monitor.recalls_step`, `Monitor.recalls_run`: how long a frame is remembered.
* `Monitor.forgery_is_reported`: a frame that differs from the last one with its number in one place
  is reported with an alert, and one that repeats it as a duplicate.
-/

namespace Mavlink

/-! ### What a hash keeps apart -/

namespace Fingerprint

/-- What undoes the factor of each step. -/
def primeInverse : UInt32 := 899433627

/-- The factor of each step keeps words apart, as it can be undone. -/
theorem mul_prime_inj {a b : UInt32} : a * prime = b * prime ↔ a = b := by
  have hinverse : prime * primeInverse = 1 := by decide
  constructor
  · intro h
    calc a = a * prime * primeInverse := by rw [UInt32.mul_assoc, hinverse, UInt32.mul_one]
      _ = b * prime * primeInverse := by rw [h]
      _ = b := by rw [UInt32.mul_assoc, hinverse, UInt32.mul_one]
  · exact congrArg (· * prime)

/-- A word keeps hashes apart. -/
theorem feed_left_inj {hash hash' word : UInt32} :
    feed hash word = feed hash' word ↔ hash = hash' := by
  rw [feed, feed, mul_prime_inj, UInt32.xor_left_inj]

/-- A hash keeps words apart. -/
theorem feed_right_inj {hash word word' : UInt32} :
    feed hash word = feed hash word' ↔ word = word' := by
  rw [feed, feed, mul_prime_inj, UInt32.xor_right_inj]

/-- Words keep hashes apart. -/
theorem foldl_feed_left_inj {hash hash' : UInt32} {words : List UInt32} :
    words.foldl feed hash = words.foldl feed hash' ↔ hash = hash' := by
  induction words generalizing hash hash' with
  | nil => rfl
  | cons word words ih => rw [List.foldl_cons, List.foldl_cons, ih, feed_left_inj]

/-- **Words that differ in one place are told apart**, whatever stands before and behind it. -/
theorem foldl_feed_place_inj (front : List UInt32) {hash word word' : UInt32}
    {back : List UInt32} :
    (front ++ word :: back).foldl feed hash = (front ++ word' :: back).foldl feed hash ↔
      word = word' := by
  rw [List.foldl_append, List.foldl_append, List.foldl_cons, List.foldl_cons, foldl_feed_left_inj,
    feed_right_inj]

end Fingerprint

/-! ### Frames with the same sequence number -/

namespace Frame

/-- Two frames **differ in one place** of what enters a fingerprint: in their version, their
component, their message or one byte of their payload. What does not enter it is left open. -/
inductive DiffersInOnePlace (f f' : Frame) : Prop
  | version (hne : f.version ≠ f'.version) (hcomponent : f.componentId = f'.componentId)
      (hmessage : f.messageId = f'.messageId) (hpayload : f.payload = f'.payload)
  | componentId (hne : f.componentId ≠ f'.componentId) (hversion : f.version = f'.version)
      (hmessage : f.messageId = f'.messageId) (hpayload : f.payload = f'.payload)
  | messageId (hne : f.messageId ≠ f'.messageId) (hversion : f.version = f'.version)
      (hcomponent : f.componentId = f'.componentId) (hpayload : f.payload = f'.payload)
  | payload {front back : Bytes} {x x' : UInt8} (hne : x ≠ x') (hversion : f.version = f'.version)
      (hcomponent : f.componentId = f'.componentId) (hmessage : f.messageId = f'.messageId)
      (hpayload : f.payload = front ++ x :: back) (hpayload' : f'.payload = front ++ x' :: back)

/-- A frame **restates** another one: they are the same but for the flags, the checksum, the mark
and the signature of a signed frame, and the outcome. -/
def Restates (f' f : Frame) : Prop :=
  f' = { f with
    checksum := f'.checksum
    isSigned := f'.isSigned
    incompatFlags := f'.incompatFlags
    compatFlags := f'.compatFlags
    signature? := f'.signature?
    outcome := f'.outcome }

/-- Frames that restate each other have one fingerprint. -/
theorem fingerprint_of_restates {f f' : Frame} (h : f'.Restates f) :
    f'.fingerprint = f.fingerprint := by
  rw [h]
  rfl

/-- The versions are numbered differently. -/
theorem ordinal_inj {v v' : Version} :
    UInt32.ofNat v.ordinal = UInt32.ofNat v'.ordinal ↔ v = v' := by
  cases v <;> cases v' <;> decide

/-- **Frames of a system that differ in one place have different fingerprints.** -/
theorem fingerprint_ne_of_differsInOnePlace {f f' : Frame} (hsystem : f.systemId = f'.systemId)
    (h : f.DiffersInOnePlace f') : f.fingerprint ≠ f'.fingerprint := by
  rw [fingerprint, fingerprint, Fingerprint.words, Fingerprint.words, ← hsystem]
  intro heq
  -- In each case the words are the same before the place and behind it.
  cases h with
  | version hne hcomponent hmessage hpayload =>
      rw [← hcomponent, ← hmessage, ← hpayload] at heq
      exact hne (ordinal_inj.1 ((Fingerprint.foldl_feed_place_inj []).1 heq))
  | componentId hne hversion hmessage hpayload =>
      rw [← hversion, ← hmessage, ← hpayload] at heq
      exact hne (UInt8.toUInt32_inj.1 ((Fingerprint.foldl_feed_place_inj [_, _]).1 heq))
  | messageId hne hversion hcomponent hpayload =>
      rw [← hversion, ← hcomponent, ← hpayload] at heq
      exact hne ((Fingerprint.foldl_feed_place_inj [_, _, _]).1 heq)
  | payload hne hversion hcomponent hmessage hpayload hpayload' =>
      rw [← hversion, ← hcomponent, ← hmessage, hpayload, hpayload', List.length_append,
        List.length_append, List.length_cons, List.length_cons, List.map_append, List.map_append,
        List.map_cons, List.map_cons, ← List.append_assoc, ← List.append_assoc] at heq
      exact hne (UInt8.toUInt32_inj.1 ((Fingerprint.foldl_feed_place_inj _).1 heq))

end Frame

/-! ### The comparison with the last frame -/

namespace Track

/-- What is detected about a frame that comes shortly after the last one with its sequence number
begins with the result of comparing the two. -/
theorem head?_detect_of_recent {c : MonitorConf} {t : Track} {f : Frame} {now : Nat}
    {last : Sighting} (hlast : t.ring.get f.sequence = some last)
    (hrecent : seenWithin now last.seenAt c.sequence.duplicateTime = true) (streamId : String) :
    (t.detect c (.frame f streamId now)).head? = some (Finding.report t.systemId streamId now
      (if last.fingerprint = f.fingerprint then .duplicate f.sequence
      else .conflict f.sequence last.streamId)) := by
  obtain ⟨primary?, hfindings⟩ := findings_observe c.sequence t f streamId now
  have harrival : t.arrival c.sequence f now =
      if last.fingerprint = f.fingerprint then .duplicate else .conflict last.streamId := by
    rw [arrival, hlast, Arrival.classify.eq_def, Option.filter_some, if_pos hrecent]
  rw [detect, step, hfindings, harrival]
  by_cases hsame : last.fingerprint = f.fingerprint
  · rw [if_pos hsame, if_pos hsame]
    rfl
  · rw [if_neg hsame, if_neg hsame]
    rfl

end Track

namespace Monitor

/-! ### How long a frame is remembered -/

/-- An event **brings** a frame of a system with a sequence number. -/
def Event.Brings (s sequence : UInt8) : Event → Prop
  | .frame f _ _ => f.systemId = s ∧ f.sequence = sequence
  | .invalid _ _ _ _ | .sweep _ => False

/-- A monitor **recalls** the last frame of a system with a sequence number. -/
def Recalls (m : Monitor) (s sequence : UInt8) (last : Sighting) : Prop :=
  ∃ t, m.tracks.get s = some t ∧ t.ring.get sequence = some last

/-- A frame is recalled when it has come. -/
theorem recalls_frame (m : Monitor) (f : Frame) (streamId : String) (now : Nat) :
    (m.step (.frame f streamId now)).2.Recalls f.systemId f.sequence
      ⟨f.sequence, f.fingerprint, streamId, now⟩ := by
  refine ⟨_, get_step_frame m f streamId now, ?_⟩
  rw [Track.step, Track.ring_observe, Slots.get_set, if_pos rfl]

/-- **What one event preserves**: a frame is recalled until another one with its number comes,
unless its system is forgotten. -/
theorem recalls_step {m : Monitor} {s sequence : UInt8} {last : Sighting} {e : Event}
    (h : m.Recalls s sequence last) (he : ¬ e.Brings s sequence)
    (hknown : (m.step e).2.knows s = true) : (m.step e).2.Recalls s sequence last := by
  obtain ⟨t, ht, hring⟩ := h
  obtain ⟨t', ht'⟩ := Option.isSome_iff_exists.1 hknown
  refine ⟨t', ht', ?_⟩
  rw [get_step, ht] at ht'
  cases hseen : e.seenBy s with
  | none =>
      rw [hseen] at ht'
      obtain rfl := Option.some.inj ht'
      exact hring
  | some seen =>
      rw [hseen] at ht'
      obtain rfl := Track.eq_step_of_next?_eq_some ht'
      cases seen with
      | frame f streamId now =>
          obtain ⟨rfl, hsystem⟩ := Event.eq_frame_of_seenBy hseen
          have hother : f.sequence ≠ sequence := fun hsame => he ⟨hsystem, hsame⟩
          rw [Track.step, Track.ring_observe, Slots.get_set, if_neg hother]
          exact hring
      | invalid streamId now reason =>
          rw [Track.ring_step rfl]
          exact hring
      | sweep now =>
          rw [Track.ring_step rfl]
          exact hring

/-- **What a run preserves.** -/
theorem recalls_run {m : Monitor} {s sequence : UInt8} {last : Sighting} {events : List Event}
    (h : m.Recalls s sequence last) (hevents : ∀ e ∈ events, ¬ e.Brings s sequence)
    (hknown : ∀ front, front <+: events → (m.run front).knows s = true) :
    (m.run events).Recalls s sequence last := by
  induction events generalizing m with
  | nil => exact h
  | cons e events ih =>
      have hcons : ∀ {front}, front <+: events → e :: front <+: e :: events :=
        fun hfront => List.cons_prefix_cons.2 ⟨rfl, hfront⟩
      refine ih (recalls_step h (hevents e List.mem_cons_self) ?_) ?_ ?_
      · exact hknown [e] (hcons List.nil_prefix)
      · exact fun e' he' => hevents e' (List.mem_cons_of_mem e he')
      · exact fun front hfront => hknown (e :: front) (hcons hfront)

/-- What is reported of a frame that comes shortly after the last one with its sequence number. -/
theorem exists_reports_of_recalls {m : Monitor} {f : Frame} {now : Nat} {last : Sighting}
    (h : m.Recalls f.systemId f.sequence last)
    (hrecent : seenWithin now last.seenAt m.conf.sequence.duplicateTime = true)
    (streamId : String) :
    ∃ s rest, (m.step (.frame f streamId now)).1.reports = Finding.report s streamId now
      (if last.fingerprint = f.fingerprint then .duplicate f.sequence
      else .conflict f.sequence last.streamId) :: rest := by
  obtain ⟨t, ht, hring⟩ := h
  have hhead := Track.head?_detect_of_recent hring hrecent streamId
  obtain ⟨rest, hrest⟩ := List.head?_eq_some_iff.1 hhead
  refine ⟨t.systemId, rest, ?_⟩
  rw [step_frame_fst_eq_detect, track, ht, ← hrest]
  rfl

/-- **Forged frames are noticed.** After any events a frame comes, and then a second one of its
system with its sequence number: at most the window later, with no other frame of the system with
that number in between, and without the system having been forgotten. If the second frame differs
from the first one in one place, then the first thing reported of it is the conflict, with an alert.
If it restates the first one, then it is reported as a duplicate. -/
theorem forgery_is_reported (conf : MonitorConf) (before between : List Event) (f f' : Frame)
    (streamId streamId' : String) {now now' : Nat} (hsystem : f'.systemId = f.systemId)
    (hsequence : f'.sequence = f.sequence)
    (htime : now ≤ now' ∧ now' - now ≤ conf.sequence.duplicateTime)
    (hbetween : ∀ e ∈ between, ¬ e.Brings f.systemId f.sequence)
    (hknown : ∀ front, front <+: between →
      ((new conf).run (before ++ .frame f streamId now :: front)).knows f.systemId = true) :
    let m := (new conf).run (before ++ .frame f streamId now :: between)
    let reports := (m.step (.frame f' streamId' now')).1.reports
    (f.DiffersInOnePlace f' → ∃ d rest, reports = d :: rest ∧ d.kind = .conflict ∧
      d.severity = .alert ∧ d.details = s!"seq={f.sequence} previousStream={streamId}") ∧
    (f'.Restates f → ∃ d rest, reports = d :: rest ∧ d.kind = .duplicate ∧
      d.severity = .info ∧ d.details = s!"seq={f.sequence}") := by
  intro m reports
  have hsplit : ∀ events, (new conf).run (before ++ .frame f streamId now :: events) =
      (((new conf).run before).step (.frame f streamId now)).2.run events :=
    fun events => run_append (new conf) before (.frame f streamId now :: events)
  have hrecalls : m.Recalls f.systemId f.sequence ⟨f.sequence, f.fingerprint, streamId, now⟩ := by
    simp only [m, hsplit] at hknown ⊢
    exact recalls_run (recalls_frame _ f streamId now) hbetween hknown
  have hrecent : seenWithin now' now m.conf.sequence.duplicateTime = true := by
    rw [seenWithin_iff, conf_run (new conf)]
    exact ⟨htime.1, Nat.sub_le_iff_le_add'.1 htime.2⟩
  rw [← hsystem, ← hsequence] at hrecalls
  obtain ⟨s, rest, hreports⟩ := exists_reports_of_recalls hrecalls hrecent streamId'
  dsimp only at hreports
  constructor
  · intro hdiffers
    have hne := Frame.fingerprint_ne_of_differsInOnePlace hsystem.symm hdiffers
    rw [if_neg hne, hsequence] at hreports
    exact ⟨_, rest, hreports, rfl, rfl, rfl⟩
  · intro hrestates
    have hsame := Frame.fingerprint_of_restates hrestates
    rw [if_pos hsame.symm, hsequence] at hreports
    exact ⟨_, rest, hreports, rfl, rfl, rfl⟩

/-- A heartbeat whose last byte is changed, and one whose checksum is, each a second after the true
one. Meanwhile another frame has come over another stream, a frame was rejected, and the monitor was
swept. -/
theorem forgery_is_reported_heartbeat :
    let between : List Event := [.frame (Sample.frame 1 6) "serial" 200,
      .invalid 1 "udp" 300 .crcFailed, .sweep 400]
    let m := (new {}).run ([] ++ .frame (Sample.frame 1 5) "udp" 0 :: between)
    let forged := { Sample.frame 1 5 with payload := [4, 0, 0, 0, 2, 12, 81, 4, 2] }
    let restated := { Sample.frame 1 5 with checksum := 7, outcome := .ok }
    (∃ d rest, (m.step (.frame forged "serial" 1000000000)).1.reports = d :: rest ∧
      d.kind = .conflict ∧ d.severity = .alert ∧ d.details = "seq=5 previousStream=udp") ∧
    ∃ d rest, (m.step (.frame restated "serial" 1000000000)).1.reports = d :: rest ∧
      d.kind = .duplicate ∧ d.severity = .info ∧ d.details = "seq=5" := by
  intro between m forged restated
  have hbetween : ∀ e ∈ between, ¬ e.Brings 1 5 := by
    simp [between, Event.Brings, Sample.frame]
  have hall : ∀ n < 4, ((new {}).run ([] ++ .frame (Sample.frame 1 5) "udp" 0 ::
      between.take n)).knows 1 = true := by
    decide +kernel
  have hknown : ∀ front, front <+: between →
      ((new {}).run ([] ++ .frame (Sample.frame 1 5) "udp" 0 :: front)).knows 1 = true := by
    intro front hfront
    have htake := hall front.length (Nat.lt_succ_of_le hfront.length_le)
    rwa [← List.prefix_iff_eq_take.1 hfront] at htake
  have htime : 0 ≤ 1000000000 ∧ 1000000000 - 0 ≤ ({} : MonitorConf).sequence.duplicateTime := by
    decide
  have hdiffers : (Sample.frame 1 5).DiffersInOnePlace forged := by
    have hpayload : (Sample.frame 1 5).payload = [4, 0, 0, 0, 2, 12, 81, 4] ++ 3 :: [] := rfl
    have hpayload' : forged.payload = [4, 0, 0, 0, 2, 12, 81, 4] ++ 2 :: [] := rfl
    exact .payload (by decide) rfl rfl rfl hpayload hpayload'
  obtain ⟨hforged, -⟩ := forgery_is_reported {} [] between (Sample.frame 1 5) forged "udp" "serial"
    rfl rfl htime hbetween hknown
  obtain ⟨-, hrestated⟩ := forgery_is_reported {} [] between (Sample.frame 1 5) restated "udp"
    "serial" rfl rfl htime hbetween hknown
  exact ⟨hforged hdiffers, hrestated rfl⟩

end Monitor

end Mavlink
