import Mathlib.Data.List.Forall2
import Mavlink.Link.Send
import Mavlink.Proofs.Link.Chunking

/-!
# What keys can change

Keys are looked at when a frame has been found, its message is known and its checksum is correct.
By then it is settled which bytes the frame takes up. So two readers with different keys go through
a stream in the same way, call by call, and what they hand out differs in the outcomes of signed
frames only. Each of these outcomes is a function of the frame, of whether signatures are checked at
all, and of the one key for the frame's own sender and link.

The proof lifts one relation between frames from a packet to a candidate, a scan, all frames in a
buffer, a call and a run, along the recursion of each.

## Main results

* `Link.agree_frameOf`: what two links with different keys make of one packet.
* `Link.agree_scan`, `Link.agree_drain`, `Reader.agree_perform`: keys do not steer a reader.
* `Reader.agree_answers`: two readers with different keys, over any sequence of calls.
* `Reader.answers_elsewhere`: a key that is added to a map, or taken out of it, is of no account to
  the frames of other senders and links.
-/

namespace Mavlink

namespace KeyMap

variable (m : KeyMap) {a a' : KeyAddress} (h : a' ≠ a)

include h

/-- Taking out a key leaves the keys at other addresses alone. -/
theorem key?_unregister_of_ne : (m.unregister a).key? a' = m.key? a' := by
  have hfilter : (m.entries.filter fun e => e.1 ≠ a).find? (fun e => e.1 = a') =
      m.entries.find? fun e => e.1 = a' := by
    rw [List.find?_filter]
    refine congrArg m.entries.find? (funext fun e => ?_)
    by_cases he : e.1 = a' <;> simp [he, h]
  rw [key?, key?, unregister, hfilter]

/-- Adding a key leaves the keys at other addresses alone. -/
theorem key?_register_of_ne (key : SecretKey) : (m.register a key).key? a' = m.key? a' := by
  rw [← key?_unregister_of_ne m h, key?, register, List.find?_cons_of_neg]
  · rfl
  · simp [h.symm]

end KeyMap

/-! ### Frames that keys decide on -/

namespace Frame

/-- The checksum of a frame is that of its header and payload with the extra byte of its message. -/
def HasChecksum (r : Registry) (f : Frame) : Prop :=
  ∃ crcExtra, r.crcExtra? f.messageId = some crcExtra ∧
    f.checksum =
      Crc.frame (Packet.checkedBytes (Link.headerOf f f.incompatFlags) f.payload) crcExtra

/-- A frame is **verifiable** if it is a signed frame of the second version with a correct checksum:
the keys have the last word on it. -/
structure IsVerifiable (r : Registry) (f : Frame) : Prop where
  version_eq : f.version = .v2
  isSigned_eq : f.isSigned = true
  hasChecksum : f.HasChecksum r

/-- The sender and the link whose key a signature of the frame is checked with. -/
def keyAddress (f : Frame) (s : Signature) : KeyAddress :=
  ⟨f.systemId, f.componentId, s.linkId⟩

/-- What becomes of a verifiable frame with a signature: this depends on whether signatures are
checked, and on one key. -/
def verdict (f : Frame) (s : Signature) (canValidate : Bool) (key? : Option SecretKey) : Outcome :=
  if canValidate then
    match key? with
    | none => .signatureFailed
    | some key =>
      if key.digest (Packet.signedBytes (Link.headerOf f f.incompatFlags) f.payload f.checksum) =
          s.digest then .ok
      else .signatureFailed
  else .unsigned

/-- A signature is correct, not checked, or wrong: no verdict speaks of the checksum. -/
theorem verdict_mem (f : Frame) (s : Signature) (canValidate : Bool) (key? : Option SecretKey) :
    f.verdict s canValidate key? ∈ [Outcome.ok, .unsigned, .signatureFailed] := by
  cases canValidate with
  | false => simp [verdict]
  | true =>
      cases key? with
      | none => simp [verdict]
      | some key =>
          simp only [verdict, if_true]
          split <;> simp

/-- Two frames that were read with different keys **agree up to the keys**. -/
structure AgreeUpToKeys (r : Registry) (keys keys' : KeyProvider) (f f' : Frame) : Prop where
  /-- They are the same but for the outcome. -/
  frame_eq : f' = { f with outcome := f'.outcome }
  /-- Only of a verifiable frame the outcomes may differ. -/
  isVerifiable_of_ne : f.outcome ≠ f'.outcome → f.IsVerifiable r
  /-- Of a verifiable frame they are what the frame and the one key for its sender and link say. -/
  verdict_of_isVerifiable : f.IsVerifiable r → ∃ s, f.signature? = some s ∧
    f.outcome = f.verdict s keys.canValidate (keys.key? (f.keyAddress s)) ∧
    f'.outcome = f.verdict s keys'.canValidate (keys'.key? (f.keyAddress s))
  /-- Where they differ, they are among three. -/
  outcome_mem_of_ne : f.outcome ≠ f'.outcome →
    f.outcome ∈ [Outcome.ok, .unsigned, .signatureFailed] ∧
      f'.outcome ∈ [Outcome.ok, .unsigned, .signatureFailed]

/-- Verdicts are all that can make a difference. -/
theorem agreeUpToKeys_of_verdict {r : Registry} {keys keys' : KeyProvider} {f f' : Frame}
    (hframe : f' = { f with outcome := f'.outcome })
    (hfixed : ¬ f.IsVerifiable r → f.outcome = f'.outcome)
    (hverdict : f.IsVerifiable r → ∃ s, f.signature? = some s ∧
      f.outcome = f.verdict s keys.canValidate (keys.key? (f.keyAddress s)) ∧
      f'.outcome = f.verdict s keys'.canValidate (keys'.key? (f.keyAddress s))) :
    AgreeUpToKeys r keys keys' f f' where
  frame_eq := hframe
  isVerifiable_of_ne hne := by_contra fun hfrozen => hne (hfixed hfrozen)
  verdict_of_isVerifiable := hverdict
  outcome_mem_of_ne hne := by
    have hverifiable : f.IsVerifiable r := by_contra fun hfrozen => hne (hfixed hfrozen)
    obtain ⟨s, -, hf, hf'⟩ := hverdict hverifiable
    rw [hf, hf']
    exact ⟨verdict_mem f s _ _, verdict_mem f s _ _⟩

/-- Frames that were read with the same key for their sender and link are equal. -/
theorem AgreeUpToKeys.eq_of_key?_eq {r : Registry} {keys keys' : KeyProvider} {f f' : Frame}
    (h : AgreeUpToKeys r keys keys' f f') (hcan : keys.canValidate = keys'.canValidate)
    (hkey : ∀ s, f.signature? = some s →
      keys.key? (f.keyAddress s) = keys'.key? (f.keyAddress s)) : f' = f := by
  have houtcome : f'.outcome = f.outcome := by
    by_contra hne
    obtain ⟨s, hs, hf, hf'⟩ := h.verdict_of_isVerifiable (h.isVerifiable_of_ne (Ne.symm hne))
    rw [hf, hf', hcan, hkey s hs] at hne
    exact hne rfl
  rw [h.frame_eq, houtcome]

end Frame

namespace Link

open Mavlink.Frame (AgreeUpToKeys)

variable (r : Registry) (keys keys' : KeyProvider)

/-! ### One packet -/

section Packet

variable {r} {p : Packet} {crcExtra : UInt8}

/-- The checks on a verifiable frame end with its signature. -/
theorem verify_eq_verdict
    (hsum : p.checksum = Crc.frame (Packet.checkedBytes p.header p.payload) crcExtra)
    (hversion : p.header.version = .v2) {s : Signature} (hs : p.signature? = some s) (o : Outcome) :
    (⟨r, keys⟩ : Link).verify p crcExtra =
      (frameOf p o).verdict s keys.canValidate (keys.key? ((frameOf p o).keyAddress s)) := by
  rw [verify, if_pos hsum, hversion, hs]
  rfl

/-- The checks on other frames do not look at the keys. -/
theorem verify_eq_of_not_verifiable
    (h : ¬ (p.checksum = Crc.frame (Packet.checkedBytes p.header p.payload) crcExtra ∧
      p.header.version = .v2 ∧ p.signature?.isSome = true)) :
    (⟨r, keys⟩ : Link).verify p crcExtra = (⟨r, keys'⟩ : Link).verify p crcExtra := by
  rw [verify, verify]
  by_cases hsum : p.checksum = Crc.frame (Packet.checkedBytes p.header p.payload) crcExtra
  · rw [if_pos hsum, if_pos hsum]
    cases hversion : p.header.version with
    | v1 => rfl
    | v2 =>
        cases hs : p.signature? with
        | none => rfl
        | some s => exact absurd ⟨hsum, hversion, by simp [hs]⟩ h
  · rw [if_neg hsum, if_neg hsum]

/-- **What two links with different keys make of one packet.** -/
theorem agree_frameOf (hextra : r.crcExtra? p.header.messageId = some crcExtra)
    (hsigned : p.signature?.isSome = p.header.isSigned) :
    AgreeUpToKeys r keys keys' (frameOf p ((⟨r, keys⟩ : Link).verify p crcExtra))
      (frameOf p ((⟨r, keys'⟩ : Link).verify p crcExtra)) := by
  refine Frame.agreeUpToKeys_of_verdict rfl ?_ ?_
  · intro hfrozen
    refine verify_eq_of_not_verifiable keys keys' ?_
    rintro ⟨hsum, hversion, hs⟩
    exact hfrozen ⟨hversion, hsigned.symm.trans hs, crcExtra, hextra, hsum⟩
  · rintro ⟨hversion, hmark, extra, hextra', hsum⟩
    obtain rfl := Option.some.inj (hextra.symm.trans hextra')
    obtain ⟨s, hs⟩ := Option.isSome_iff_exists.1 (hsigned.trans hmark)
    exact ⟨s, hs, verify_eq_verdict keys hsum hversion hs _,
      verify_eq_verdict keys' hsum hversion hs _⟩

/-- Two links with different keys accept the same packets, as frames that agree. -/
theorem agree_accept? (hsigned : p.signature?.isSome = p.header.isSigned) :
    Option.Rel (AgreeUpToKeys r keys keys') ((⟨r, keys⟩ : Link).accept? p)
      ((⟨r, keys'⟩ : Link).accept? p) := by
  simp only [accept?, Option.bind_eq_bind]
  cases r.minPayloadSize? p.header.version p.header.messageId with
  | none => exact .none
  | some least =>
      cases hextra : r.crcExtra? p.header.messageId with
      | none => exact .none
      | some crcExtra =>
          simp only [Option.bind_some]
          split
          · exact .none
          · exact .some (agree_frameOf keys keys' hextra hsigned)

end Packet

/-! ### Scanning -/

/-- Two candidates agree if both are rejected, both are incomplete, or both are accepted with frames
that agree and with the same bytes behind them. -/
inductive Candidate.Agree (R : Frame → Frame → Prop) : Candidate → Candidate → Prop
  | rejected : Agree R .rejected .rejected
  | incomplete : Agree R .incomplete .incomplete
  | accepted {f f' : Frame} (rest : Bytes) (h : R f f') :
      Agree R (.accepted f rest) (.accepted f' rest)

/-- Two links with different keys find candidates that agree. -/
theorem agree_candidate (b : Bytes) :
    Candidate.Agree (AgreeUpToKeys r keys keys') ((⟨r, keys⟩ : Link).candidate b)
      ((⟨r, keys'⟩ : Link).candidate b) := by
  rw [candidate, candidate]
  cases hv : b.head?.bind Version.ofMarker? with
  | none => exact .rejected
  | some v =>
      dsimp only
      cases hparse : Packet.parse? v b with
      | none => exact .incomplete
      | some found =>
          obtain ⟨p, rest⟩ := found
          obtain ⟨-, -, hp, -⟩ := Packet.eq_toBytes_of_parse? (head?_eq_marker hv) hparse
          have haccept := agree_accept? (r := r) keys keys' hp.signature_isSome
          dsimp only
          generalize (⟨r, keys⟩ : Link).accept? p = f?, (⟨r, keys'⟩ : Link).accept? p = f?'
            at haccept
          cases haccept with
          | none => exact .rejected
          | some h => exact .accepted rest h

/-- **Keys do not steer a scan.** -/
theorem agree_scan (b : Bytes) :
    Option.Rel (AgreeUpToKeys r keys keys') ((⟨r, keys⟩ : Link).scan b).1
        ((⟨r, keys'⟩ : Link).scan b).1 ∧
      ((⟨r, keys⟩ : Link).scan b).2 = ((⟨r, keys'⟩ : Link).scan b).2 := by
  induction b with
  | nil => exact ⟨.none, rfl⟩
  | cons x b ih =>
      have hcandidate := agree_candidate r keys keys' (x :: b)
      rw [scan, scan]
      generalize (⟨r, keys⟩ : Link).candidate (x :: b) = c,
        (⟨r, keys'⟩ : Link).candidate (x :: b) = c' at hcandidate
      cases hcandidate with
      | rejected => exact ih
      | incomplete => exact ⟨.none, rfl⟩
      | accepted rest h => exact ⟨.some h, rfl⟩

/-- **Keys do not steer the draining of a buffer.** -/
theorem agree_drain (b : Bytes) :
    List.Forall₂ (AgreeUpToKeys r keys keys') ((⟨r, keys⟩ : Link).drain b).1
        ((⟨r, keys'⟩ : Link).drain b).1 ∧
      ((⟨r, keys⟩ : Link).drain b).2 = ((⟨r, keys'⟩ : Link).drain b).2 := by
  -- The first reader says how far the recursion goes; the second one goes along.
  induction b using drain.induct ⟨r, keys⟩ with
  | case1 b rest hscan =>
      have hagree := agree_scan r keys keys' b
      cases hscan' : (⟨r, keys'⟩ : Link).scan b with
      | mk f?' rest' =>
          rw [hscan, hscan'] at hagree
          obtain ⟨hframe, hrest⟩ := hagree
          cases hframe
          rw [drain_of_scan_none hscan, drain_of_scan_none hscan']
          exact ⟨.nil, hrest⟩
  | case2 b f rest hscan _ _ _ ih =>
      have hagree := agree_scan r keys keys' b
      cases hscan' : (⟨r, keys'⟩ : Link).scan b with
      | mk f?' rest' =>
          rw [hscan, hscan'] at hagree
          obtain ⟨hframe, hrest⟩ := hagree
          cases hframe with
          | some h =>
              obtain rfl : rest = rest' := hrest
              rw [drain_of_scan_some hscan, drain_of_scan_some hscan']
              exact ⟨.cons h ih.1, ih.2⟩

end Link

/-! ### Readers -/

namespace Reader

open Mavlink.Frame (AgreeUpToKeys)

/-- The frames that each call of a sequence hands out, and the bytes that are buffered after it. -/
def answers (r : Reader) : List Call → List (List Frame × Bytes)
  | [] => []
  | c :: calls => ((r.perform c).1, (r.perform c).2.buffer) :: (r.perform c).2.answers calls

/-- Two answers to a call agree if the frames do, one by one, and the same bytes are buffered. -/
def AnswersAgree (r : Registry) (keys keys' : KeyProvider) (a a' : List Frame × Bytes) : Prop :=
  List.Forall₂ (AgreeUpToKeys r keys keys') a.1 a'.1 ∧ a.2 = a'.2

variable (r : Registry) (keys keys' : KeyProvider)

/-- **What one call preserves**: readers that differ in their keys only hand out frames that agree,
and differ in their keys only. -/
theorem agree_perform (b : Bytes) (c : Call) :
    ∃ rest, ((⟨⟨r, keys⟩, b⟩ : Reader).perform c).2 = ⟨⟨r, keys⟩, rest⟩ ∧
      ((⟨⟨r, keys'⟩, b⟩ : Reader).perform c).2 = ⟨⟨r, keys'⟩, rest⟩ ∧
      List.Forall₂ (AgreeUpToKeys r keys keys') ((⟨⟨r, keys⟩, b⟩ : Reader).perform c).1
        ((⟨⟨r, keys'⟩, b⟩ : Reader).perform c).1 := by
  cases c with
  | extend data => exact ⟨b ++ data, rfl, rfl, .nil⟩
  | next =>
      obtain ⟨hframe, hrest⟩ := Link.agree_scan r keys keys' b
      refine ⟨((⟨r, keys⟩ : Link).scan b).2, rfl, ?_, ?_⟩
      · rw [hrest]
        rfl
      · simp only [perform, next]
        generalize ((⟨r, keys⟩ : Link).scan b).1 = f?, ((⟨r, keys'⟩ : Link).scan b).1 = f?'
          at hframe
        cases hframe with
        | none => exact .nil
        | some h => exact .cons h .nil
  | push data =>
      obtain ⟨hframes, hrest⟩ := Link.agree_drain r keys keys' (b ++ data)
      refine ⟨((⟨r, keys⟩ : Link).drain (b ++ data)).2, rfl, ?_, hframes⟩
      rw [hrest]
      rfl

/-- **What a run preserves.** -/
theorem agree_run (b : Bytes) (calls : List Call) :
    List.Forall₂ (AnswersAgree r keys keys') ((⟨⟨r, keys⟩, b⟩ : Reader).answers calls)
      ((⟨⟨r, keys'⟩, b⟩ : Reader).answers calls) := by
  induction calls generalizing b with
  | nil => exact .nil
  | cons c calls ih =>
      obtain ⟨rest, hreader, hreader', hframes⟩ := agree_perform r keys keys' b c
      rw [answers, answers, hreader, hreader']
      exact .cons ⟨hframes, rfl⟩ (ih rest)

/-- **Keys do not influence framing.** Two fresh readers with different keys get the same calls, in
any order and with any bytes. Then the same bytes are buffered after every call, and every call
hands out as many frames from the one reader as from the other. The frames are pairwise equal except
possibly for the outcome, and the outcomes differ only of verifiable frames. Of these they are
`ok`, `unsigned` or `signatureFailed`, and each is determined by the frame, by whether the reader
checks signatures, and by its key for the frame's sender and link. -/
theorem agree_answers (calls : List Call) :
    List.Forall₂ (AnswersAgree r keys keys') ((ofLink ⟨r, keys⟩).answers calls)
      ((ofLink ⟨r, keys'⟩).answers calls) :=
  agree_run r keys keys' [] calls

/-! ### Keys of other senders and links -/

/-- **Keys of other senders and links are of no account.** A key is added to a map, or taken out of
it. Then every call leaves the same bytes buffered as before, and hands out the same frames, apart
from those that are signed by the sender and for the link of that key. -/
theorem answers_elsewhere (m : KeyMap) (a : KeyAddress) (key : SecretKey) {m' : KeyMap}
    (hm' : m' = m.register a key ∨ m' = m.unregister a) (calls : List Call) :
    List.Forall₂ (fun x x' => x.2 = x'.2 ∧
        List.Forall₂ (fun f f' => (∀ s ∈ f.signature?, f.keyAddress s ≠ a) → f' = f) x.1 x'.1)
      ((ofLink ⟨r, .ofMap m⟩).answers calls) ((ofLink ⟨r, .ofMap m'⟩).answers calls) := by
  have hother : ∀ a' ≠ a, m.key? a' = m'.key? a' := by
    intro a' hne
    rcases hm' with rfl | rfl
    · exact (m.key?_register_of_ne hne key).symm
    · exact (m.key?_unregister_of_ne hne).symm
  refine (agree_run r (.ofMap m) (.ofMap m') [] calls).imp fun x x' hx => ⟨hx.2, ?_⟩
  exact hx.1.imp fun f f' hf hne => hf.eq_of_key?_eq rfl fun s hs => hother _ (hne s hs)

end Reader

end Mavlink
