import Mavlink.Proofs.Link.RoundTrip

/-!
# Relaying

Whoever receives a frame and sends it on has it completed again: its flags are made to agree with
its signature, the checksum and the digest are computed anew. For a frame that came through its
checks this changes nothing. The flags agree already, the checksum was compared with the computed
one, and so was the digest, with the key that it is signed with now. So the frame is sent as the
bytes that it was made of, unknown flags and a payload that is longer than needed included.

A frame whose signature was not checked does not belong to these: there may be no key to sign it.

## Main results

* `Link.pack_of_accept?`: a frame that came through its checks is packed as the packet it was made
  of.
* `Link.scan_then_send`: such a frame is sent on as the bytes it was taken from, each time.
-/

namespace Mavlink

/-! ### The flag that announces a signature -/

/-- The flag that announces a signature is the lowest bit. -/
theorem getElem_signedFlag (i : Nat) (hi : i < 8) : signedFlag.toBitVec[i] = decide (i = 0) := by
  rw [← BitVec.getLsbD_eq_getElem, show signedFlag.toBitVec = 1#8 from rfl, BitVec.getLsbD_one]
  simp

/-- Flags are the same if their lowest bits are and their other bits are. -/
theorem eq_of_toBitVec {x y : UInt8} (hlow : x.toBitVec[0] = y.toBitVec[0])
    (hrest : ∀ i, (hi : i + 1 < 8) → x.toBitVec[i + 1] = y.toBitVec[i + 1]) : x = y := by
  refine UInt8.toBitVec_inj.1 (BitVec.eq_of_getElem_eq fun i hi => ?_)
  cases i with
  | zero => exact hlow
  | succ i => exact hrest i hi

/-- Flags announce a signature exactly if their lowest bit is set. -/
theorem and_signedFlag_eq_zero_iff {flags : UInt8} :
    flags &&& signedFlag = 0 ↔ flags.toBitVec[0] = false := by
  constructor
  · intro h
    have hbit := congrArg (fun x => x.toBitVec[0]) h
    simpa [getElem_signedFlag] using hbit
  · intro h
    exact eq_of_toBitVec (by simp [h]) fun i hi => by simp [getElem_signedFlag]

/-- Flags that announce a signature stay as they are when one is announced. -/
theorem or_signedFlag_eq_self {flags : UInt8} (h : flags &&& signedFlag ≠ 0) :
    flags ||| signedFlag = flags := by
  rw [ne_eq, and_signedFlag_eq_zero_iff, Bool.not_eq_false] at h
  exact eq_of_toBitVec (by simp [h]) fun i hi => by simp [getElem_signedFlag]

/-- Flags that announce no signature stay as they are when none is announced. -/
theorem and_not_signedFlag_eq_self {flags : UInt8} (h : flags &&& signedFlag = 0) :
    flags &&& ~~~signedFlag = flags := by
  rw [and_signedFlag_eq_zero_iff] at h
  exact eq_of_toBitVec (by simp [h]) fun i hi => by simp [getElem_signedFlag]

/-- Only a header of the second version announces a signature. -/
theorem Header.version_of_isSigned {h : Header} (hsigned : h.isSigned = true) :
    h.version = .v2 := by
  rw [isSigned, Bool.and_eq_true, decide_eq_true_eq] at hsigned
  exact hsigned.1

/-- A frame **came through its checks** if it was found correct, or if it is not signed and all else
was found correct. -/
def Frame.CameThrough (f : Frame) : Prop :=
  f.outcome = .ok ∨ f.outcome = .unsigned ∧ f.isSigned = false

namespace Link

/-! ### What the checks have found -/

section Checks

variable {l : Link} {p : Packet} {crcExtra : UInt8}

/-- A checksum that did not fail is the computed one. -/
theorem checksum_eq_of_verify_ne (h : l.verify p crcExtra ≠ .crcFailed) :
    p.checksum = Crc.frame (Packet.checkedBytes p.header p.payload) crcExtra := by
  refine Decidable.byContradiction fun hne => ?_
  exact h (if_neg hne)

/-- A packet with the computed checksum and no signature. -/
theorem verify_of_signature?_eq_none (hs : p.signature? = none)
    (hsum : p.checksum = Crc.frame (Packet.checkedBytes p.header p.payload) crcExtra) :
    l.verify p crcExtra = match p.header.version with
      | .v1 => .ok
      | .v2 => .unsigned := by
  rw [verify, if_pos hsum, hs]
  cases p.header.version <;> rfl

/-- A correct signature has the digest that its key computes. -/
theorem exists_key_of_verifySignature {s : Signature} (h : l.verifySignature p s = .ok) :
    ∃ key, l.keys.key? ⟨p.header.systemId, p.header.componentId, s.linkId⟩ = some key ∧
      key.digest (Packet.signedBytes p.header p.payload p.checksum) = s.digest := by
  rw [verifySignature] at h
  split at h
  · split at h
    · contradiction
    · next key hkey =>
      split at h
      · next hdigest => exact ⟨key, hkey, hdigest⟩
      · contradiction
  · contradiction

/-- The flags of a received packet agree with its signature already. -/
theorem sentFlags_frameOf (p : Packet) (outcome : Outcome) :
    sentFlags (frameOf p outcome) p.header.isSigned = p.header.incompatFlags := by
  have hversion : (frameOf p outcome).version = p.header.version := rfl
  have hflags : (frameOf p outcome).incompatFlags = p.header.incompatFlags := rfl
  rw [sentFlags, hversion, hflags, Header.isSigned]
  cases p.header.version with
  | v1 => rfl
  | v2 =>
      by_cases hflag : p.header.incompatFlags &&& signedFlag = 0
      · simp [hflag, and_not_signedFlag_eq_self hflag]
      · simp [hflag, or_signedFlag_eq_self hflag]

/-! ### Completing a frame again -/

/-- **A received frame without a signature** is completed to itself. -/
theorem complete_frameOf_none (hs : p.signature? = none) (hsigned : p.header.isSigned = false)
    (hsum : p.checksum = Crc.frame (Packet.checkedBytes p.header p.payload) crcExtra) :
    complete (frameOf p (l.verify p crcExtra)) crcExtra none =
      { frame := frameOf p (l.verify p crcExtra), bytes := p.toBytes } := by
  have houtcome := verify_of_signature?_eq_none (l := l) hs hsum
  generalize l.verify p crcExtra = outcome at houtcome ⊢
  have hflags := sentFlags_frameOf p outcome
  rw [hsigned] at hflags
  have hheader : headerOf (frameOf p outcome) p.header.incompatFlags = p.header := rfl
  have hpayload : (frameOf p outcome).payload = p.payload := rfl
  simp only [complete, Option.isSome_none, hflags, hheader, hpayload, ← hsum]
  obtain ⟨header, payload, checksum, signature?⟩ := p
  obtain rfl : signature? = none := hs
  obtain rfl := houtcome
  rfl

/-- **A received frame with a correct signature** is completed to itself. -/
theorem complete_frameOf_some {s : Signature} {key : SecretKey} (hs : p.signature? = some s)
    (hsigned : p.header.isSigned = true)
    (hsum : p.checksum = Crc.frame (Packet.checkedBytes p.header p.payload) crcExtra)
    (hdigest : key.digest (Packet.signedBytes p.header p.payload p.checksum) = s.digest) :
    complete (frameOf p .ok) crcExtra (some (s, key)) =
      { frame := frameOf p .ok, bytes := p.toBytes } := by
  have hflags := sentFlags_frameOf p .ok
  rw [hsigned] at hflags
  have hheader : headerOf (frameOf p .ok) p.header.incompatFlags = p.header := rfl
  have hpayload : (frameOf p .ok).payload = p.payload := rfl
  simp only [complete, Option.isSome_some, hflags, hheader, hpayload, ← hsum, hdigest]
  obtain ⟨header, payload, checksum, signature?⟩ := p
  obtain rfl : signature? = some s := hs
  rfl

end Checks

/-- **A frame that came through its checks is packed as the packet it was made of**, and packing it
leaves it as it is. -/
theorem pack_of_accept? {l : Link} {p : Packet} {f : Frame} (hp : p.WellFormed)
    (haccept : l.accept? p = some f) (hf : f.CameThrough) :
    l.pack f = .ok { frame := f, bytes := p.toBytes } := by
  obtain ⟨least, crcExtra, -, hextra, -, rfl⟩ := accept?_eq_some_iff.1 haccept
  have hne : l.verify p crcExtra ≠ .crcFailed := by
    intro hfailed
    rcases hf with hok | ⟨hunsigned, -⟩
    · exact absurd (hfailed.symm.trans hok) (by decide)
    · exact absurd (hfailed.symm.trans hunsigned) (by decide)
  have hsum := checksum_eq_of_verify_ne hne
  have hsome := hp.signature_isSome
  refine pack_eq_ok_iff.2 ⟨hp.payload_le, hp.messageId_le, crcExtra, ?_⟩
  cases hs : p.signature? with
  | none =>
      rw [hs] at hsome
      have hsigned : p.header.isSigned = false := hsome.symm
      exact ⟨none, hextra, signing?_eq_ok_none_iff.2 hsigned,
        (complete_frameOf_none hs hsigned hsum).symm⟩
  | some s =>
      rw [hs] at hsome
      have hsigned : p.header.isSigned = true := hsome.symm
      have hversion := Header.version_of_isSigned hsigned
      have hverify : l.verify p crcExtra = l.verifySignature p s := by
        rw [verify, if_pos hsum, hversion, hs]
      have hok : l.verify p crcExtra = .ok := by
        rcases hf with hok | ⟨-, hunsigned⟩
        · exact hok
        · exact absurd (hunsigned.symm.trans hsigned) Bool.false_ne_true
      obtain ⟨key, hkey, hdigest⟩ := exists_key_of_verifySignature (hverify.symm.trans hok)
      rw [hok]
      exact ⟨some (s, key), hextra, signing?_eq_ok_some_iff.2 ⟨hsigned, hversion, hs, hkey⟩,
        (complete_frameOf_some hs hsigned hsum hdigest).symm⟩

/-- A frame that came through its checks is sent as the packet it was made of. -/
theorem send_of_accept? {l : Link} {p : Packet} {f : Frame} (hp : p.WellFormed)
    (haccept : l.accept? p = some f) (hf : f.CameThrough) (out : Bytes) :
    l.send out f =
      .ok { stream := out ++ p.toBytes, frame := f, written := p.toBytes.length } := by
  rw [send, pack_of_accept? hp haccept hf]

/-- **Relaying is exact.** A scan finds a frame that came through its checks in the bytes from the
first position that is not rejected to those that are left. Sending that frame over the same link
adds exactly these bytes to any stream and leaves the frame as it is; so does sending it again. -/
theorem scan_then_send (registry : Registry) (keys : KeyProvider) (b rest : Bytes) (f : Frame)
    (hscan : scan ⟨registry, keys⟩ b = (some f, rest)) (hf : f.CameThrough) :
    ∃ skipped taken, b = skipped ++ taken ++ rest ∧
      (∀ i < skipped.length, candidate ⟨registry, keys⟩ (b.drop i) = .rejected) ∧
      candidate ⟨registry, keys⟩ (taken ++ rest) = .accepted f rest ∧
      ∀ out, ∃ sent again,
        send ⟨registry, keys⟩ out f = .ok sent ∧ sent.stream = out ++ taken ∧
        sent.written = taken.length ∧ sent.frame = f ∧
        send ⟨registry, keys⟩ sent.stream sent.frame = .ok again ∧
        again.stream = sent.stream ++ taken ∧ again.written = taken.length ∧
        again.frame = sent.frame := by
  obtain ⟨i, hrejected, haccepted⟩ := exists_candidate_of_scan hscan
  obtain ⟨p, hb, hp, haccept⟩ := exists_packet_of_candidate haccepted
  have hsend := send_of_accept? hp haccept hf
  refine ⟨b.take i, p.toBytes, ?_, ?_, ?_, ?_⟩
  · rw [List.append_assoc, ← hb, List.take_append_drop]
  · intro j hj
    exact hrejected j (Nat.lt_of_lt_of_le hj (List.length_take_le i b))
  · rw [← hb]
    exact haccepted
  · intro out
    exact ⟨_, _, hsend out, rfl, rfl, rfl, hsend _, rfl, rfl, rfl⟩

end Link

/-- The heartbeat in a frame of the first version, as it is received. -/
def Sample.receivedHeartbeat : Frame where
  version := .v1
  sequence := 7
  systemId := 1
  componentId := 2
  messageId := 0
  payload := [4, 0, 0, 0, 2, 12, 81, 4, 3]
  checksum := 0xf074
  isSigned := false
  incompatFlags := 0
  compatFlags := 0
  signature? := none
  outcome := .ok

/-- A heartbeat between noise is sent on as the bytes that it was taken from. -/
theorem Link.scan_then_send_heartbeat :
    Sample.link.scan ([1, 2] ++ Sample.heartbeatBytes ++ [3]) =
        (some Sample.receivedHeartbeat, [3]) ∧
      ∃ skipped taken, [1, 2] ++ Sample.heartbeatBytes ++ [3] = skipped ++ taken ++ [3] ∧
        ∃ sent, Sample.link.send [4] Sample.receivedHeartbeat = .ok sent ∧
          sent.stream = [4] ++ taken := by
  have hscan : Sample.link.scan ([1, 2] ++ Sample.heartbeatBytes ++ [3]) =
      (some Sample.receivedHeartbeat, [3]) := by decide +kernel
  obtain ⟨skipped, taken, hb, -, -, hsend⟩ :=
    scan_then_send Sample.registry .none _ [3] Sample.receivedHeartbeat hscan (.inl rfl)
  obtain ⟨sent, -, hsent, hstream, -⟩ := hsend [4]
  exact ⟨hscan, skipped, taken, hb, sent, hsent, hstream⟩

end Mavlink
