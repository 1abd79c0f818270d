import Mavlink.Link.Send
import Mavlink.Proofs.Link.Candidate

/-!
# Sent frames arrive

A frame that is sent over a link is found by the receiver of the same link, whatever noise comes
before it and whatever bytes come after it. The receiver sees the completed frame, apart from what
the wire has no room for: the flags of a frame of the first version, the high bits of a timestamp,
and a signature on a frame that is not signed.

The hash function enters only as a function: both ends apply it to the same bytes.

## Main results

* `Link.pack_eq_ok_iff`: which frames can be sent, and what they are sent as.
* `Link.candidate_sentPacket`: the bytes of a sent packet are accepted, whatever follows them, if
  its payload is long enough; else they are rejected (`Link.candidate_sentPacket_eq`).
* `Link.exists_frame_complete`: what sending changes of a frame.
* `Link.send_then_scan`: the round trip.
-/

namespace Mavlink

/-! ### Key providers -/

namespace KeyProvider

/-- The key providers of the library: no keys, one key, and a map of keys. -/
inductive Standard : KeyProvider → Prop
  | none : Standard .none
  | static (key : SecretKey) : Standard (.static key)
  | ofMap (m : KeyMap) : Standard (.ofMap m)

/-- A standard provider that has a key to sign with also checks signatures. -/
theorem Standard.canValidate {keys : KeyProvider} (h : keys.Standard) {a : KeyAddress}
    {key : SecretKey} (hkey : keys.key? a = some key) : keys.canValidate = true := by
  cases h with
  | none => contradiction
  | static => rfl
  | ofMap => rfl

end KeyProvider

/-! ### What arrives -/

/-- The frame that **arrives** when a completed frame is sent. -/
def Frame.arrived (f : Frame) : Frame :=
  { f with
    incompatFlags := match f.version with
      | .v1 => 0
      | .v2 => f.incompatFlags
    compatFlags := match f.version with
      | .v1 => 0
      | .v2 => f.compatFlags
    signature? := if f.isSigned then
        f.signature?.map fun s => { s with timestamp := s.timestamp % Signature.timestampBound }
      else none }

/-- Flags with the one for signatures set announce a signature. -/
theorem or_signedFlag_and (flags : UInt8) : (flags ||| signedFlag) &&& signedFlag ≠ 0 := by
  intro h
  have hone := congrArg UInt8.toNat h
  rw [UInt8.toNat_and, UInt8.toNat_or, Nat.and_or_distrib_right] at hone
  have hflag : signedFlag.toNat &&& signedFlag.toNat = 1 := rfl
  have hle : 1 ≤ (flags.toNat &&& signedFlag.toNat) ||| 1 := Nat.right_le_or
  rw [hflag] at hone
  rw [hone] at hle
  exact absurd hle (by decide)

/-- Flags with the one for signatures cleared announce none. -/
theorem and_not_signedFlag_and (flags : UInt8) : (flags &&& ~~~signedFlag) &&& signedFlag = 0 := by
  rw [UInt8.and_assoc, UInt8.not_and_self, UInt8.and_zero]

namespace Link

/-! ### Sending -/

/-- A frame is sent without a signature exactly if it asks for none. -/
theorem signing?_eq_ok_none_iff {l : Link} {f : Frame} :
    l.signing? f = .ok none ↔ f.isSigned = false := by
  rw [signing?]
  constructor
  · intro hok
    split at hok
    · split at hok
      · contradiction
      · contradiction
      · split at hok <;> simp at hok
    · next hsigned => exact Bool.eq_false_iff.mpr hsigned
  · intro hfalse
    rw [hfalse]
    rfl

/-- A frame is signed exactly if it is of the second version, asks for it, has a signature, and
there is a key for it. -/
theorem signing?_eq_ok_some_iff {l : Link} {f : Frame} {s : Signature} {key : SecretKey} :
    l.signing? f = .ok (some (s, key)) ↔
      f.isSigned = true ∧ f.version = .v2 ∧ f.signature? = some s ∧
        l.keys.key? ⟨f.systemId, f.componentId, s.linkId⟩ = some key := by
  rw [signing?]
  constructor
  · intro hok
    split at hok
    · next hsigned =>
      split at hok
      · contradiction
      · contradiction
      · next hv hs =>
        split at hok
        · contradiction
        · next hkey =>
          simp only [Except.ok.injEq, Option.some.injEq, Prod.mk.injEq] at hok
          obtain ⟨rfl, rfl⟩ := hok
          exact ⟨hsigned, hv, hs, hkey⟩
    · simp at hok
  · rintro ⟨hsigned, hv, hs, hkey⟩
    rw [if_pos hsigned, hv, hs]
    dsimp only
    rw [hkey]

/-- A frame that asks for a signature gets one, and no other does. -/
theorem isSome_of_signing?_eq_ok {l : Link} {f : Frame}
    {signing? : Option (Signature × SecretKey)} (h : l.signing? f = .ok signing?) :
    signing?.isSome = f.isSigned := by
  cases signing? with
  | none => rw [signing?_eq_ok_none_iff.mp h, Option.isSome_none]
  | some signing =>
      obtain ⟨s, key⟩ := signing
      rw [(signing?_eq_ok_some_iff.mp h).1, Option.isSome_some]

/-- **Which frames can be sent**, and what they are sent as. -/
theorem pack_eq_ok_iff {l : Link} {f : Frame} {packed : Packed} :
    l.pack f = .ok packed ↔
      f.payload.length ≤ maxPayloadSize ∧ f.messageId ≤ f.version.maxMessageId ∧
        ∃ crcExtra signing?, l.registry.crcExtra? f.messageId = some crcExtra ∧
          l.signing? f = .ok signing? ∧ packed = complete f crcExtra signing? := by
  rw [pack]
  constructor
  · intro hok
    split at hok
    · contradiction
    · next hpayload =>
      split at hok
      · contradiction
      · next hid =>
        split at hok
        · contradiction
        · next crcExtra hextra =>
          split at hok
          · contradiction
          · next signing? hsigning =>
            exact ⟨Nat.le_of_not_lt hpayload, UInt32.not_lt.1 hid, crcExtra, signing?, hextra,
              hsigning, (Except.ok.inj hok).symm⟩
  · rintro ⟨hpayload, hid, crcExtra, signing?, hextra, hsigning, rfl⟩
    rw [if_neg (Nat.not_lt.2 hpayload), if_neg (UInt32.not_lt.2 hid), hextra]
    dsimp only
    rw [hsigning]

/-! ### Sent packets -/

/-- The packet that a frame is sent as. -/
def sentPacket (f : Frame) (crcExtra : UInt8) (signing? : Option (Signature × SecretKey)) :
    Packet :=
  let header := headerOf f (sentFlags f signing?.isSome)
  let checksum := Crc.frame (Packet.checkedBytes header f.payload) crcExtra
  { header, payload := f.payload, checksum,
    signature? := signing?.map fun (s, key) =>
      { s with digest := key.digest (Packet.signedBytes header f.payload checksum) } }

/-- The bytes of a completed frame are those of the packet it is sent as. -/
theorem bytes_complete (f : Frame) (crcExtra : UInt8)
    (signing? : Option (Signature × SecretKey)) :
    (complete f crcExtra signing?).bytes = (sentPacket f crcExtra signing?).toBytes := by
  cases signing? <;> rfl

/-- The flags that a frame is sent with announce a signature exactly if there is one. -/
theorem isSigned_headerOf {f : Frame} {signed : Bool} (h : signed = true → f.version = .v2) :
    (headerOf f (sentFlags f signed)).isSigned = signed := by
  rw [Header.isSigned, headerOf, sentFlags]
  cases hv : f.version with
  | v1 =>
      cases signed with
      | false => rfl
      | true => rw [hv] at h; exact absurd (h rfl) (by decide)
  | v2 =>
      cases signed with
      | false => simp [and_not_signedFlag_and]
      | true => simp [or_signedFlag_and]

/-- Only frames of the second version are signed. -/
theorem version_of_signing?_eq_ok {l : Link} {f : Frame}
    {signing? : Option (Signature × SecretKey)} (h : l.signing? f = .ok signing?) :
    signing?.isSome = true → f.version = .v2 := by
  cases signing? with
  | none => intro hsome; contradiction
  | some signing =>
      obtain ⟨s, key⟩ := signing
      intro _
      exact (signing?_eq_ok_some_iff.mp h).2.1

/-- A frame that can be sent is sent as a well-formed packet. -/
theorem wellFormed_sentPacket {l : Link} {f : Frame} {crcExtra : UInt8}
    {signing? : Option (Signature × SecretKey)} (hpayload : f.payload.length ≤ maxPayloadSize)
    (hid : f.messageId ≤ f.version.maxMessageId) (hsigning : l.signing? f = .ok signing?) :
    (sentPacket f crcExtra signing?).WellFormed where
  messageId_le := hid
  payload_le := hpayload
  signature_isSome := by
    show (signing?.map _).isSome = (headerOf f (sentFlags f signing?.isSome)).isSigned
    rw [Option.isSome_map, isSigned_headerOf (version_of_signing?_eq_ok hsigning)]

/-- Whoever signs with a standard provider also checks signatures. -/
theorem canValidate_of_signing?_eq_ok {l : Link} (hkeys : l.keys.Standard) {f : Frame}
    {signing? : Option (Signature × SecretKey)} (hsigning : l.signing? f = .ok signing?)
    (hsigned : f.isSigned = true) : l.keys.canValidate = true := by
  have hsome := isSome_of_signing?_eq_ok hsigning
  rw [hsigned] at hsome
  obtain ⟨⟨s, key⟩, rfl⟩ := Option.isSome_iff_exists.1 hsome
  obtain ⟨-, -, -, hkey⟩ := signing?_eq_ok_some_iff.1 hsigning
  exact hkeys.canValidate hkey

/-- **The receiver's checks** on a sent packet give the outcome that the sender wrote down, if
signatures are checked. -/
theorem verify_sentPacket {l : Link} {f : Frame}
    (hvalidate : f.isSigned = true → l.keys.canValidate = true) {crcExtra : UInt8}
    {signing? : Option (Signature × SecretKey)} (hsigning : l.signing? f = .ok signing?) :
    l.verify (sentPacket f crcExtra signing?).carried crcExtra =
      (complete f crcExtra signing?).frame.outcome := by
  have hversion : (sentPacket f crcExtra signing?).carried.header.version = f.version :=
    Header.version_carried _
  have hsum : (sentPacket f crcExtra signing?).carried.checksum =
      Crc.frame (Packet.checkedBytes (sentPacket f crcExtra signing?).carried.header
        (sentPacket f crcExtra signing?).carried.payload) crcExtra :=
    congrArg (Crc.frame · crcExtra) (Packet.checkedBytes_carried _ _).symm
  rw [verify, if_pos hsum, hversion]
  cases signing? with
  | none =>
      cases hv : f.version with
      | v1 => simp only [complete, hv]
      | v2 =>
          simp only [complete, hv]
          rfl
  | some signing =>
      obtain ⟨s, key⟩ := signing
      obtain ⟨hsigned, hv, -, hkey⟩ := signing?_eq_ok_some_iff.mp hsigning
      have haddress : (⟨(sentPacket f crcExtra (some (s, key))).carried.header.systemId,
          (sentPacket f crcExtra (some (s, key))).carried.header.componentId, s.linkId⟩ :
            KeyAddress) = ⟨f.systemId, f.componentId, s.linkId⟩ := by
        simp only [Packet.carried, sentPacket, Header.carried, headerOf, hv]
      have hdigest := Packet.signedBytes_carried (sentPacket f crcExtra (some (s, key))).header
        f.payload (sentPacket f crcExtra (some (s, key))).checksum
      rw [hv]
      show l.verifySignature _ (Signature.carried _) = .ok
      rw [verifySignature, if_pos (hvalidate hsigned)]
      simp only [Signature.carried, haddress, hkey]
      exact if_pos (congrArg key.digest hdigest)

/-- The receiver makes of a sent packet the frame that arrives. -/
theorem frameOf_sentPacket {l : Link} {f : Frame} {crcExtra : UInt8}
    {signing? : Option (Signature × SecretKey)} (hsigning : l.signing? f = .ok signing?) :
    frameOf (sentPacket f crcExtra signing?).carried
      (complete f crcExtra signing?).frame.outcome =
        (complete f crcExtra signing?).frame.arrived := by
  have hsigned : (sentPacket f crcExtra signing?).carried.header.isSigned = f.isSigned := by
    rw [← isSome_of_signing?_eq_ok hsigning,
      ← isSigned_headerOf (version_of_signing?_eq_ok hsigning)]
    exact Header.isSigned_carried _
  cases signing? with
  | none =>
      have hfalse := signing?_eq_ok_none_iff.mp hsigning
      rw [frameOf, hsigned]
      cases hv : f.version <;>
        simp [Frame.arrived, complete, sentPacket, Packet.carried, Header.carried, headerOf, hv,
          hfalse]
  | some signing =>
      obtain ⟨s, key⟩ := signing
      obtain ⟨htrue, hv, -, -⟩ := signing?_eq_ok_some_iff.mp hsigning
      rw [frameOf, hsigned]
      simp [Frame.arrived, complete, sentPacket, Packet.carried, Header.carried, headerOf, hv,
        htrue, Signature.carried]

/-! ### Receiving -/

/-- **The receiver accepts a sent packet** whose payload is long enough, whatever follows it, and
rejects every other. -/
theorem candidate_sentPacket_eq {l : Link} {f : Frame}
    (hvalidate : f.isSigned = true → l.keys.canValidate = true) {least : Nat} {crcExtra : UInt8}
    {signing? : Option (Signature × SecretKey)}
    (hpayload : f.payload.length ≤ maxPayloadSize) (hid : f.messageId ≤ f.version.maxMessageId)
    (hextra : l.registry.crcExtra? f.messageId = some crcExtra)
    (hsigning : l.signing? f = .ok signing?)
    (hleast : l.registry.minPayloadSize? f.version f.messageId = some least) (rest : Bytes) :
    l.candidate ((sentPacket f crcExtra signing?).toBytes ++ rest) =
      if f.payload.length < least then .rejected
      else .accepted (complete f crcExtra signing?).frame.arrived rest := by
  have hp : (sentPacket f crcExtra signing?).WellFormed :=
    wellFormed_sentPacket hpayload hid hsigning
  have hversion : (sentPacket f crcExtra signing?).carried.header.version = f.version :=
    Header.version_carried _
  have hmessage : (sentPacket f crcExtra signing?).carried.header.messageId = f.messageId := by
    show (Header.carried _).messageId = _
    rw [Header.carried]
    split <;> rfl
  have haccept : l.accept? (sentPacket f crcExtra signing?).carried =
      if f.payload.length < least then none
      else some (complete f crcExtra signing?).frame.arrived := by
    rw [accept?, hversion, hmessage, hleast, hextra, ← frameOf_sentPacket hsigning,
      ← verify_sentPacket hvalidate hsigning]
    rfl
  rw [candidate_toBytes l hp, haccept]
  by_cases hshort : f.payload.length < least
  · rw [if_pos hshort, if_pos hshort]
  · rw [if_neg hshort, if_neg hshort]

/-- **A sent packet is accepted**, whatever follows it, and what follows it is left. -/
theorem candidate_sentPacket {l : Link} (hkeys : l.keys.Standard) {f : Frame} {least : Nat}
    {crcExtra : UInt8} {signing? : Option (Signature × SecretKey)}
    (hpayload : f.payload.length ≤ maxPayloadSize) (hid : f.messageId ≤ f.version.maxMessageId)
    (hextra : l.registry.crcExtra? f.messageId = some crcExtra)
    (hsigning : l.signing? f = .ok signing?)
    (hleast : l.registry.minPayloadSize? f.version f.messageId = some least)
    (hlen : least ≤ f.payload.length) (rest : Bytes) :
    l.candidate ((sentPacket f crcExtra signing?).toBytes ++ rest) =
      .accepted (complete f crcExtra signing?).frame.arrived rest := by
  rw [candidate_sentPacket_eq (canValidate_of_signing?_eq_ok hkeys hsigning) hpayload hid hextra
    hsigning hleast, if_neg (Nat.not_lt.2 hlen)]

/-- **What sending changes of a frame**: the flags, the checksum, the outcome and, if the frame is
signed, the digest of the signature that it was given. -/
theorem exists_frame_complete {l : Link} {f : Frame} {crcExtra : UInt8}
    {signing? : Option (Signature × SecretKey)} (h : l.signing? f = .ok signing?) :
    ∃ flags checksum signature? outcome,
      (complete f crcExtra signing?).frame =
        { f with incompatFlags := flags, checksum, signature?, outcome } ∧
      (f.isSigned = true → ∃ s digest,
        f.signature? = some s ∧ signature? = some { s with digest }) ∧
      (f.isSigned = false → signature? = f.signature?) := by
  cases signing? with
  | none =>
      have hfalse := signing?_eq_ok_none_iff.1 h
      refine ⟨_, _, _, _, rfl, ?_, fun _ => rfl⟩
      intro htrue
      rw [hfalse] at htrue
      contradiction
  | some signing =>
      obtain ⟨s, key⟩ := signing
      obtain ⟨htrue, -, hs, -⟩ := signing?_eq_ok_some_iff.1 h
      refine ⟨_, _, _, _, rfl, fun _ => ⟨s, _, hs, rfl⟩, ?_⟩
      intro hfalse
      rw [htrue] at hfalse
      contradiction

/-- **Sent frames arrive.** Sending keeps the stream that was written before and reports the bytes
that it adds; of the frame it changes the flags, the checksum, the outcome and, if the frame is
signed, the digest of its signature only. If the payload has the length that the receiver asks for,
the receiver of the same link finds the frame that arrives behind any noise, and leaves exactly what
follows it. -/
theorem send_then_scan (registry : Registry) (keys : KeyProvider) (out : Bytes) (f : Frame)
    (sent : Sent) (least : Nat) (hkeys : keys.Standard)
    (hsend : send ⟨registry, keys⟩ out f = .ok sent)
    (hleast : registry.minPayloadSize? f.version f.messageId = some least)
    (hlen : least ≤ f.payload.length) :
    (∃ flags checksum signature? outcome,
      sent.frame = { f with incompatFlags := flags, checksum, signature?, outcome } ∧
      (f.isSigned = true → ∃ s digest,
        f.signature? = some s ∧ signature? = some { s with digest }) ∧
      (f.isSigned = false → signature? = f.signature?)) ∧
    ∃ appended, sent.stream = out ++ appended ∧ sent.written = appended.length ∧
      ∀ noise rest : Bytes, (∀ x ∈ noise, x ≠ 0xfe ∧ x ≠ 0xfd) →
        scan ⟨registry, keys⟩ (noise ++ appended ++ rest) = (some sent.frame.arrived, rest) := by
  rw [send] at hsend
  split at hsend
  · contradiction
  · next packed hpack =>
    obtain rfl := Except.ok.inj hsend
    obtain ⟨hpayload, hid, crcExtra, signing?, hextra, hsigning, rfl⟩ := pack_eq_ok_iff.mp hpack
    refine ⟨exists_frame_complete hsigning, _, rfl, rfl, ?_⟩
    intro noise rest hnoise
    have hcandidate := candidate_sentPacket hkeys hpayload hid hextra hsigning hleast hlen rest
    have hquiet : ∀ x ∈ noise, Version.ofMarker? x = none := fun x hx =>
      ofMarker?_eq_none (hnoise x hx).1 (hnoise x hx).2
    rw [List.append_assoc, scan_noise_append _ hquiet, bytes_complete]
    exact scan_of_accepted hcandidate

end Link

/-- A heartbeat that is to be signed. -/
def Sample.signedHeartbeat : Frame where
  version := .v2
  sequence := 7
  systemId := 1
  componentId := 2
  messageId := 0
  payload := [4, 0, 0, 0, 2, 12, 81, 4, 3]
  checksum := 0
  isSigned := true
  incompatFlags := 0
  compatFlags := 0
  signature? := some (.blank 3 1000)
  outcome := .unknown

/-- A signed heartbeat whose timestamp takes more than 48 bits. -/
def Sample.lateHeartbeat : Frame :=
  { signedHeartbeat with
    signature? := some { Signature.blank 3 0 with timestamp := Signature.timestampBound } }

/-- A signed heartbeat arrives after two bytes of noise, and the marker behind it is left. -/
theorem Link.send_then_scan_heartbeat :
    ∃ sent, send ⟨Sample.registry, .static (.ofText "key")⟩ [1] Sample.signedHeartbeat = .ok sent ∧
      ∃ appended, sent.stream = [1] ++ appended ∧
        scan ⟨Sample.registry, .static (.ofText "key")⟩ ([2, 3] ++ appended ++ [0xfe]) =
          (some sent.frame.arrived, [0xfe]) := by
  have hok : (send ⟨Sample.registry, .static (.ofText "key")⟩ [1]
      Sample.signedHeartbeat).isOk = true := by decide +kernel
  have hleast : Sample.registry.minPayloadSize? .v2 0 = some 9 := by decide +kernel
  cases hsend : send ⟨Sample.registry, .static (.ofText "key")⟩ [1] Sample.signedHeartbeat with
  | error e =>
      rw [hsend] at hok
      exact absurd hok Bool.false_ne_true
  | ok sent =>
      obtain ⟨-, appended, hstream, -, hscan⟩ :=
        send_then_scan _ _ _ _ sent 9 (.static _) hsend hleast (by decide)
      exact ⟨sent, rfl, appended, hstream, hscan [2, 3] [0xfe] (by simp)⟩

end Mavlink
