import Mavlink.Proofs.Frame.Position
import Mavlink.Proofs.Link.Candidate

/-!
# What the receiver finds

A specification of the scan by positions. Each position of a buffer has a *verdict* that depends on
the bytes at fixed distances from it only: no frame begins there, or one that has not arrived, or
one that has. The receiver acts on the first position that is not rejected, and the frame that it
reports is made of the bytes at their places.

## Main results

* `Position.candidate_drop`: the receiver's view of a position is its verdict.
* `scan_meets_verdicts`: what a scan returns and what it leaves, for each verdict of the first
  position that is not rejected.
-/

namespace Mavlink

/-- What a receiver that knows the messages of a registry makes of a position. -/
inductive Verdict
  | rejected
  | incomplete
  | accepted (version : Version) (crcExtra : UInt8)
  deriving DecidableEq, Repr

namespace Position

/-- The **verdict** on a position: rejected without a marker; incomplete if the buffer ends before
the header or before the declared end; rejected if the message is unknown or its payload too short;
else accepted. -/
def verdict (r : Registry) (b : Bytes) (i : Nat) : Verdict :=
  match Version.ofMarker? (b.byteAt i) with
  | none => .rejected
  | some v =>
    if b.length < i + v.headerSize ∨ b.length < stop v b i then .incomplete
    else
      match r.minPayloadSize? v (messageId v b i), r.crcExtra? (messageId v b i) with
      | some least, some extra =>
        if payloadSize b i < least then .rejected else .accepted v extra
      | _, _ => .rejected

/-- The outcome of the checks on the frame that stands at a position: the checksum first, and then,
of a frame of the second version that declares a signature, the digest. -/
def outcome (keys : KeyProvider) (extra : UInt8) (v : Version) (b : Bytes) (i : Nat) : Outcome :=
  if checksum v b i ≠ Crc.frame (checkedBytes v b i) extra then .crcFailed
  else
    match v with
    | .v1 => .ok
    | .v2 =>
      if ¬ isSigned .v2 b i ∨ ¬ keys.canValidate then .unsigned
      else
        match keys.key? ⟨b.byteAt (i + 5), b.byteAt (i + 6), (signature .v2 b i).linkId⟩ with
        | none => .signatureFailed
        | some key =>
          if key.digest (signedBytes .v2 b i) = (signature .v2 b i).digest then .ok
          else .signatureFailed

/-- The frame that stands at a position. -/
def frame (keys : KeyProvider) (extra : UInt8) (v : Version) (b : Bytes) (i : Nat) : Frame where
  version := v
  sequence := b.byteAt (i + senderOffset v)
  systemId := b.byteAt (i + (senderOffset v + 1))
  componentId := b.byteAt (i + (senderOffset v + 2))
  messageId := messageId v b i
  payload := payload v b i
  checksum := checksum v b i
  isSigned := isSigned v b i
  incompatFlags := match v with
    | .v1 => 0
    | .v2 => b.byteAt (i + 2)
  compatFlags := match v with
    | .v1 => 0
    | .v2 => b.byteAt (i + 3)
  signature? := if isSigned v b i then some (signature v b i) else none
  outcome := outcome keys extra v b i

/-- Only a checksum that differs from the computed one makes the checksum fail. -/
theorem outcome_eq_crcFailed_iff {keys : KeyProvider} {extra : UInt8} {v : Version} {b : Bytes}
    {i : Nat} : outcome keys extra v b i = .crcFailed ↔
      checksum v b i ≠ Crc.frame (checkedBytes v b i) extra := by
  constructor
  · intro h heq
    rw [outcome.eq_def] at h
    rw [if_neg (not_not_intro heq)] at h
    cases v with
    | v1 => contradiction
    | v2 =>
        dsimp only at h
        split at h
        · contradiction
        · split at h
          · contradiction
          · split at h <;> contradiction
  · intro hne
    rw [outcome.eq_def]
    rw [if_pos hne]

/-- The extra byte of an accepted position is that of the message there. -/
theorem crcExtra?_of_accepted {r : Registry} {b : Bytes} {i : Nat} {v : Version} {extra : UInt8}
    (h : verdict r b i = .accepted v extra) : r.crcExtra? (messageId v b i) = some extra := by
  rw [verdict] at h
  split at h
  · contradiction
  · split at h
    · contradiction
    · split at h
      · next hextra =>
        split at h
        · contradiction
        · obtain ⟨rfl, rfl⟩ := Verdict.accepted.injEq .. ▸ h
          exact hextra
      · contradiction

/-! ### The receiver judges by position -/

section Packet

variable {b : Bytes} {i : Nat} {p : Packet} {rest : Bytes}

/-- The receiver's checks on a packet are the checks by position. -/
theorem outcome_eq_verify (l : Link) (extra : UInt8) (hb : b.drop i = p.toBytes ++ rest)
    (hp : p.WellFormed) (hc : p.carried = p) :
    outcome l.keys extra p.header.version b i = l.verify p extra := by
  have hpacket := packet_eq hb hp hc
  have hsigned := isSigned_eq (drop_eq hb)
  have hsome := hp.signature_isSome
  have hbytes := signedBytes_eq hb hp
  rw [outcome.eq_def, Link.verify, checksum_eq hb hp, checkedBytes_eq hb hp]
  by_cases hsum : p.checksum = Crc.frame (Packet.checkedBytes p.header p.payload) extra
  · rw [if_neg (not_not_intro hsum), if_pos hsum]
    cases hv : p.header.version with
    | v1 => rfl
    | v2 =>
        rw [hv] at hpacket hsigned hbytes
        cases hs : p.signature? with
        | none =>
            have hunsigned : ¬ isSigned .v2 b i := by
              rw [hsigned, ← hsome, hs]
              exact Bool.false_ne_true
            exact if_pos (.inl hunsigned)
        | some s =>
            have hread : isSigned .v2 b i := by rw [hsigned, ← hsome, hs, Option.isSome_some]
            have hstored : signature .v2 b i = s := by
              have := congrArg Packet.signature? hpacket
              rw [packet, if_pos hread, hs] at this
              exact Option.some.inj this
            have hsystem : b.byteAt (i + 5) = p.header.systemId :=
              congrArg (fun q => q.header.systemId) hpacket
            have hcomponent : b.byteAt (i + 6) = p.header.componentId :=
              congrArg (fun q => q.header.componentId) hpacket
            simp only [hread, not_true_eq_false, false_or, hstored, hsystem, hcomponent, hbytes,
              Link.verifySignature]
            by_cases hkeys : l.keys.canValidate
            · exact (if_neg (not_not_intro hkeys)).trans (if_pos hkeys).symm
            · exact (if_pos hkeys).trans (if_neg hkeys).symm
  · rw [if_pos hsum, if_neg hsum]

/-- The frame at a position is the one that the receiver makes of the packet there. -/
theorem frame_eq_frameOf (l : Link) (extra : UInt8) (hb : b.drop i = p.toBytes ++ rest)
    (hp : p.WellFormed) (hc : p.carried = p) :
    frame l.keys extra p.header.version b i = Link.frameOf p (l.verify p extra) := by
  have hframe : ∀ v, frame l.keys extra v b i =
      Link.frameOf (packet v b i) (outcome l.keys extra v b i) := by
    intro v
    cases v <;> rfl
  rw [hframe, packet_eq hb hp hc, outcome_eq_verify l extra hb hp hc]

end Packet

/-- The marker at a position, seen from there. -/
theorem head?_bind_ofMarker? (b : Bytes) (i : Nat) :
    (b.drop i).head?.bind Version.ofMarker? = Version.ofMarker? (b.byteAt i) := by
  rw [← Nat.add_zero i, Bytes.byteAt_add, Nat.add_zero]
  cases b.drop i <;> rfl

/-- **The receiver's view of a position** is its verdict, with the frame that stands there. -/
theorem candidate_drop (l : Link) (b : Bytes) (i : Nat) :
    l.candidate (b.drop i) = match verdict l.registry b i with
      | .rejected => .rejected
      | .incomplete => .incomplete
      | .accepted v extra => .accepted (frame l.keys extra v b i) (b.drop (stop v b i)) := by
  rw [Link.candidate, verdict, head?_bind_ofMarker?]
  cases hv : Version.ofMarker? (b.byteAt i) with
  | none => rfl
  | some v =>
      have hm := Link.head?_eq_marker ((head?_bind_ofMarker? b i).trans hv)
      have hnone := parse?_drop_eq_none_iff hm
      dsimp only
      cases hparse : Packet.parse? v (b.drop i) with
      | none => rw [if_pos (hnone.1 hparse)]
      | some found =>
          obtain ⟨p, rest⟩ := found
          obtain ⟨hb, rfl, hp, hc⟩ := Packet.eq_toBytes_of_parse? hm hparse
          rw [if_neg fun hshort => by rw [hnone.2 hshort] at hparse; contradiction]
          rw [messageId_eq (drop_eq hb) hp.messageId_le, payloadSize_eq_length hb hp]
          dsimp only [Link.accept?]
          cases l.registry.minPayloadSize? p.header.version p.header.messageId with
          | none => rfl
          | some least =>
              cases l.registry.crcExtra? p.header.messageId with
              | none => rfl
              | some extra =>
                  dsimp only [Option.bind_eq_bind, Option.bind_some]
                  by_cases hleast : p.payload.length < least
                  · rw [if_pos hleast, if_pos hleast]
                  · rw [if_neg hleast, if_neg hleast]
                    dsimp only
                    rw [frame_eq_frameOf l extra hb hp hc, drop_stop hb hp]

end Position

namespace Link

open Position

/-- Positions that are rejected do not matter to a scan. -/
theorem scan_eq_scan_drop {l : Link} {b : Bytes} {i : Nat}
    (h : ∀ j < i, verdict l.registry b j = .rejected) : l.scan b = l.scan (b.drop i) := by
  induction i with
  | zero => rfl
  | succ i ih =>
      rw [ih fun j hj => h j (Nat.lt_succ_of_lt hj)]
      have hcandidate := candidate_drop l b i
      rw [h i (Nat.lt_succ_self i)] at hcandidate
      rw [← List.drop_drop]
      cases hb : b.drop i with
      | nil => rfl
      | cons x c =>
          rw [hb] at hcandidate
          rw [scan, hcandidate]
          rfl

/-- **What a scan returns and leaves.** If every position is rejected, there is no frame and
nothing is kept. Else the first position that is not rejected decides: if it is incomplete, the
bytes from there on are kept; if it is accepted, the frame that stands there is returned and the
bytes after its declared end are kept. The checksum of that frame fails exactly if the stored one
differs from that of the bytes between marker and checksum with the message's extra byte. -/
theorem scan_meets_verdicts (l : Link) (b : Bytes) :
    ((∀ i, verdict l.registry b i = .rejected) → l.scan b = (none, [])) ∧
    ∀ i, (∀ j < i, verdict l.registry b j = .rejected) →
      (verdict l.registry b i = .incomplete → l.scan b = (none, b.drop i)) ∧
      ∀ v extra, verdict l.registry b i = .accepted v extra →
        l.scan b = (some (frame l.keys extra v b i), b.drop (stop v b i)) ∧
        l.registry.crcExtra? (messageId v b i) = some extra ∧
        (outcome l.keys extra v b i = .crcFailed ↔
          checksum v b i ≠ Crc.frame (checkedBytes v b i) extra) := by
  constructor
  · intro h
    rw [scan_eq_scan_drop (i := b.length) fun j _ => h j, List.drop_length]
    rfl
  · intro i h
    have hcandidate := candidate_drop l b i
    constructor
    · intro hi
      rw [hi] at hcandidate
      rw [scan_eq_scan_drop h, scan_of_incomplete hcandidate]
    · intro v extra hi
      rw [hi] at hcandidate
      refine ⟨?_, crcExtra?_of_accepted hi, outcome_eq_crcFailed_iff⟩
      rw [scan_eq_scan_drop h, scan_of_accepted hcandidate]

/-- Noise is given up, the beginning of a frame is kept, and a heartbeat after noise is found. -/
theorem scan_meets_verdicts_heartbeat :
    Sample.link.scan [1, 2, 3] = (none, []) ∧
    Sample.link.scan [1, 0xfe, 9] = (none, [0xfe, 9]) ∧
    Sample.link.scan (1 :: Sample.heartbeatBytes ++ [0xfd]) =
      (some (frame .none 50 .v1 (1 :: Sample.heartbeatBytes ++ [0xfd]) 1), [0xfd]) := by
  have hnoise : ∀ i, verdict Sample.registry [1, 2, 3] i = .rejected
    | 0 | 1 | 2 => rfl
    | i + 3 => rfl
  have hfirst : ∀ (b : Bytes), ∀ j < 1, verdict Sample.registry (1 :: b) j = .rejected := by
    intro b j hj
    obtain rfl := Nat.lt_one_iff.mp hj
    rfl
  refine ⟨(scan_meets_verdicts Sample.link _).1 hnoise, ?_, ?_⟩
  · exact ((scan_meets_verdicts Sample.link _).2 1 (hfirst _)).1 rfl
  · exact (((scan_meets_verdicts Sample.link _).2 1 (hfirst _)).2 .v1 50 (by decide +kernel)).1

end Link

end Mavlink
