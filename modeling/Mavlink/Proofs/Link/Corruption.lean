import Mavlink.Proofs.Checksum
import Mavlink.Proofs.Link.RoundTrip
import Mavlink.Proofs.Link.Scanner

/-!
# Corruption on the way

A few bytes decide where a received frame ends and which message it is taken for. As long as they
arrive as they were sent, the receiver's verdict on the frame is the one on what was sent, and no
byte behind the frame is touched. What is left to the checksum is to tell the sent bytes from the
received ones, and it does so if they differ in two adjacent bytes only.

## Main results

* `Position.SameFraming.verdict_eq`: the verdict depends on the framing bytes only.
* `Position.checksum_ne_of_garbled`: the checksum of a garbled frame fails.
* `Link.scan_garbled`: what is found of a frame that was garbled on the way.
-/

namespace Mavlink

namespace Position

variable {b b' : Bytes} {v : Version}

/-! ### The bytes that a frame is recognized by -/

/-- Where the marker, the length and the message id of a frame stand. -/
def framingPositions : Version → List Nat
  | .v1 => [0, 1, 5]
  | .v2 => [0, 1, 7, 8, 9]

/-- Two strings of one length have the **same framing** if they agree on where a frame that begins
with them ends, and on its message. -/
structure SameFraming (v : Version) (b b' : Bytes) : Prop where
  length_eq : b'.length = b.length
  getElem?_eq : ∀ j ∈ framingPositions v, b'[j]? = b[j]?
  flag_eq : v = .v2 → b'.byteAt 2 &&& signedFlag = b.byteAt 2 &&& signedFlag

namespace SameFraming

/-- Bytes with the same framing agree at each framing position. -/
theorem byteAt_eq (h : SameFraming v b b') {j : Nat} (hj : j ∈ framingPositions v) :
    b'.byteAt j = b.byteAt j := by
  rw [Bytes.byteAt, Bytes.byteAt, List.getD_eq_getElem?_getD, List.getD_eq_getElem?_getD,
    h.getElem?_eq j hj]

/-- Bytes with the same framing begin with the same byte. -/
theorem marker_eq (h : SameFraming v b b') : b'.byteAt 0 = b.byteAt 0 :=
  h.byteAt_eq (by cases v <;> decide)

/-- Bytes with the same framing announce payloads of one length. -/
theorem payloadSize_eq (h : SameFraming v b b') : payloadSize b' 0 = payloadSize b 0 :=
  congrArg UInt8.toNat (h.byteAt_eq (by cases v <;> decide))

/-- Bytes with the same framing both announce a signature, or neither does. -/
theorem isSigned_eq (h : SameFraming v b b') : isSigned v b' 0 = isSigned v b 0 := by
  cases v with
  | v1 => rfl
  | v2 => rw [isSigned, isSigned, h.flag_eq rfl]

/-- Bytes with the same framing are of one message. -/
theorem messageId_eq (h : SameFraming v b b') : messageId v b' 0 = messageId v b 0 := by
  have hslice : ∀ start n, (∀ j < n, start + j ∈ framingPositions v) →
      Bytes.slice start n b' = Bytes.slice start n b := by
    intro start n hin
    refine List.ext_getElem? fun j => ?_
    rw [Bytes.getElem?_slice, Bytes.getElem?_slice]
    split
    · next hj => exact h.getElem?_eq _ (hin j hj)
    · rfl
  cases v with
  | v1 => rw [messageId, messageId, Bytes.numberAt, Bytes.numberAt, hslice _ _ (by decide)]
  | v2 => rw [messageId, messageId, Bytes.numberAt, Bytes.numberAt, hslice _ _ (by decide)]

/-- Bytes with the same framing have their checksums in one place. -/
theorem checksumStart_eq (h : SameFraming v b b') :
    checksumStart v b' 0 = checksumStart v b 0 := by
  rw [checksumStart, checksumStart, h.payloadSize_eq]

/-- Bytes with the same framing end in one place. -/
theorem stop_eq (h : SameFraming v b b') : stop v b' 0 = stop v b 0 := by
  rw [stop, stop, h.payloadSize_eq, h.isSigned_eq]

/-- The stored checksum shows both of its bytes. -/
theorem slice_eq_of_checksum_eq (h : SameFraming v b b')
    (heq : checksum v b' 0 = checksum v b 0) :
    Bytes.slice (checksumStart v b 0) 2 b' = Bytes.slice (checksumStart v b 0) 2 b := by
  have hlt : ∀ c : Bytes, c.numberAt (checksumStart v b 0) 2 < 2 ^ 16 := by
    intro c
    have hcount : ∀ k ≤ 2, Bytes.count k ≤ 2 ^ 16 := by decide
    exact Nat.lt_of_lt_of_le (Bytes.fromLittleEndian_lt _) (hcount _ (List.length_take_le _ _))
  have hlength : (Bytes.slice (checksumStart v b 0) 2 b').length =
      (Bytes.slice (checksumStart v b 0) 2 b).length := by
    rw [Bytes.slice, Bytes.slice, List.length_take, List.length_take, List.length_drop,
      List.length_drop, h.length_eq]
  have hnumber := congrArg UInt16.toNat heq
  rw [checksum, checksum, h.checksumStart_eq, UInt16.toNat_ofNat', UInt16.toNat_ofNat',
    Nat.mod_eq_of_lt (hlt b'), Nat.mod_eq_of_lt (hlt b)] at hnumber
  rw [Bytes.numberAt, Bytes.numberAt] at hnumber
  rw [← Bytes.littleEndian_fromLittleEndian (Bytes.slice _ 2 b'), hnumber, hlength,
    Bytes.littleEndian_fromLittleEndian]

/-- **The framing decides**: the verdict on both strings is the same. -/
theorem verdict_eq (h : SameFraming v b b') (hv : b.byteAt 0 = v.marker) (r : Registry) :
    verdict r b' 0 = verdict r b 0 := by
  have hmarker : Version.ofMarker? (b.byteAt 0) = some v := Version.ofMarker?_eq_some_iff.2 hv
  rw [verdict, verdict, h.marker_eq, hmarker]
  dsimp only
  rw [h.length_eq, h.stop_eq, h.messageId_eq, h.payloadSize_eq]

end SameFraming

/-! ### Garbled frames -/

/-- The marker stands before the checksum. -/
theorem one_le_checksumStart (v : Version) (b : Bytes) : 1 ≤ checksumStart v b 0 := by
  have hheader : 1 ≤ v.headerSize := by cases v <;> decide
  rw [checksumStart]
  omega

/-- A frame is **garbled** if its framing is left alone and something else is not: the two bytes of
the checksum, or two adjacent bytes before it. -/
structure Garbled (v : Version) (b b' : Bytes) : Prop where
  ne : b' ≠ b
  framing : SameFraming v b b'
  pair : ∃ i, b.SameOffPair i b' ∧ (i + 1 < checksumStart v b 0 ∨ i = checksumStart v b 0)

/-- **The checksum of a garbled frame fails** if it was right before. -/
theorem checksum_ne_of_garbled (h : Garbled v b b') {extra : UInt8}
    (hsum : checksum v b 0 = Crc.frame (checkedBytes v b 0) extra) :
    checksum v b' 0 ≠ Crc.frame (checkedBytes v b' 0) extra := by
  obtain ⟨hne, hframing, i, hpair, hi⟩ := h
  intro hsum'
  refine hne ?_
  rcases hi with hi | rfl
  · -- The stored checksum is the old one, so it tells the bytes under it apart.
    have hstored : checksum v b' 0 = checksum v b 0 := by
      rw [checksum, checksum, hframing.checksumStart_eq, Bytes.numberAt, Bytes.numberAt,
        hpair.slice_eq (.inl hi)]
    have hcovered : checkedBytes v b' 0 = checkedBytes v b 0 := by
      rw [hsum, hsum', checkedBytes, checkedBytes, hframing.checksumStart_eq] at hstored
      rw [checkedBytes, checkedBytes, hframing.checksumStart_eq]
      exact Crc.eq_of_frame_eq (hpair.slice _ _) hstored
    have hinside : ∀ j, j < checksumStart v b 0 → b'[j]? = b[j]? := by
      intro j hj
      rw [checkedBytes, checkedBytes, hframing.checksumStart_eq] at hcovered
      cases j with
      | zero => exact hframing.getElem?_eq 0 (by cases v <;> decide)
      | succ j => exact Bytes.getElem?_eq_of_slice_eq hcovered (by omega) (by omega)
    exact hpair.eq_of_pair_eq (hinside i (by omega)) (hinside (i + 1) hi)
  · -- The bytes under the checksum are the old ones, so it is the old one.
    have hcovered : checkedBytes v b' 0 = checkedBytes v b 0 := by
      rw [checkedBytes, checkedBytes, hframing.checksumStart_eq]
      exact hpair.slice_eq (.inr (by have := one_le_checksumStart v b; omega))
    have hstored : checksum v b' 0 = checksum v b 0 := by rw [hsum, hsum', hcovered]
    have hslice := hframing.slice_eq_of_checksum_eq hstored
    exact hpair.eq_of_pair_eq (Bytes.getElem?_eq_of_slice_eq hslice (by omega) (by omega))
      (Bytes.getElem?_eq_of_slice_eq hslice (by omega) (by omega))

/-! ### Garbled packets -/

section Packet

variable {p : Packet}

/-- The verdict on the bytes of a packet of a known message with a sufficient payload. -/
theorem verdict_toBytes (hp : p.WellFormed) {r : Registry} {least : Nat} {extra : UInt8}
    (hleast : r.minPayloadSize? p.header.version p.header.messageId = some least)
    (hextra : r.crcExtra? p.header.messageId = some extra) (hlen : least ≤ p.payload.length) :
    verdict r p.toBytes 0 = .accepted p.header.version extra := by
  have hb : p.toBytes.drop 0 = p.toBytes ++ [] := (List.append_nil _).symm
  have hstop := stop_toBytes hp
  have hheader : p.header.version.headerSize ≤ stop p.header.version p.toBytes 0 := by
    rw [stop]
    omega
  rw [verdict, byteAt_toBytes_zero, Version.ofMarker?_marker]
  dsimp only
  rw [if_neg (by omega), messageId_eq (drop_eq hb) hp.messageId_le, hleast, hextra]
  dsimp only
  rw [payloadSize_eq_length hb hp, if_neg (Nat.not_lt.2 hlen)]

/-- **What the receiver makes of a garbled packet** that had the right checksum: a packet that is
made of the garbled bytes, and whose checksum fails. -/
theorem exists_packet_of_garbled (l : Link) (hp : p.WellFormed) {least : Nat} {extra : UInt8}
    (hleast : l.registry.minPayloadSize? p.header.version p.header.messageId = some least)
    (hextra : l.registry.crcExtra? p.header.messageId = some extra)
    (hlen : least ≤ p.payload.length)
    (hsum : p.checksum = Crc.frame (Packet.checkedBytes p.header p.payload) extra)
    (hgarbled : Garbled p.header.version p.toBytes b') :
    ∃ q : Packet, q.toBytes = b' ∧ q.WellFormed ∧ q.carried = q ∧
      l.candidate b' = .accepted (Link.frameOf q .crcFailed) [] := by
  have hb : p.toBytes.drop 0 = p.toBytes ++ [] := (List.append_nil _).symm
  have hframing := hgarbled.framing
  have hverdict : verdict l.registry b' 0 = .accepted p.header.version extra := by
    rw [hframing.verdict_eq (byteAt_toBytes_zero p), verdict_toBytes hp hleast hextra hlen]
  have hfailed : outcome l.keys extra p.header.version b' 0 = .crcFailed := by
    refine outcome_eq_crcFailed_iff.2 (checksum_ne_of_garbled hgarbled ?_)
    rw [checksum_eq hb hp, checkedBytes_eq hb hp, hsum]
  have hstop : b'.drop (stop p.header.version b' 0) = [] := by
    rw [hframing.stop_eq, stop_toBytes hp, ← hframing.length_eq, List.drop_length]
  have hcandidate := candidate_drop l b' 0
  rw [hverdict] at hcandidate
  dsimp only at hcandidate
  rw [List.drop_zero, hstop] at hcandidate
  -- The frame that stands there is the one that the garbled bytes are read as.
  obtain ⟨v, q, hm, hparse, haccept⟩ := Link.exists_parse?_of_candidate hcandidate
  obtain ⟨hbytes, -, hq, hcarried⟩ := Packet.eq_toBytes_of_parse? hm hparse
  obtain ⟨-, extra', -, -, -, hframe⟩ := Link.accept?_eq_some_iff.1 haccept
  have houtcome : Outcome.crcFailed = l.verify q extra' :=
    hfailed.symm.trans (congrArg Frame.outcome hframe)
  rw [List.append_nil] at hbytes
  rw [hframe, ← houtcome] at hcandidate
  exact ⟨q, hbytes.symm, hq, hcarried, hcandidate⟩

end Packet

end Position

namespace Link

/-- **Short corruption is always caught**, and costs one frame. If the bytes of a sent frame are
garbled on the way, the receiver finds a frame that is made of the garbled bytes, all of them, and
whose checksum fails; what follows is left. -/
theorem scan_garbled (registry : Registry) (sender receiver : KeyProvider) (f : Frame)
    (packed : Packed) (least : Nat) (garbled rest : Bytes)
    (hpack : pack ⟨registry, sender⟩ f = .ok packed)
    (hleast : registry.minPayloadSize? f.version f.messageId = some least)
    (hlen : least ≤ f.payload.length)
    (hgarbled : Position.Garbled f.version packed.bytes garbled) :
    ∃ p : Packet, p.toBytes = garbled ∧ p.WellFormed ∧ p.carried = p ∧
      scan ⟨registry, receiver⟩ (garbled ++ rest) = (some (frameOf p .crcFailed), rest) := by
  obtain ⟨hpayload, hid, extra, signing?, hextra, hsigning, rfl⟩ := pack_eq_ok_iff.1 hpack
  rw [bytes_complete] at hgarbled
  obtain ⟨p, hbytes, hp, hcarried, hcandidate⟩ :=
    Position.exists_packet_of_garbled ⟨registry, receiver⟩
      (wellFormed_sentPacket hpayload hid hsigning) hleast hextra hlen rfl hgarbled
  refine ⟨p, hbytes, hp, hcarried, ?_⟩
  rw [scan_append, scan_of_accepted hcandidate]
  rfl

end Link

namespace Sample

/-- The bytes of a signed heartbeat, with two bytes of its payload left open. -/
def heartbeatWith (x y : UInt8) : Bytes :=
  [0xfd, 9, 1, 0, 7, 1, 2, 0, 0, 0, 4, 0, 0, 0, 2] ++ x :: y ::
    [4, 3, 29, 13, 3, 232, 3, 0, 0, 0, 0, 217, 232, 199, 113, 238, 102]

/-- Two bytes of the payload of a heartbeat are garbled. -/
theorem garbled_heartbeatWith :
    Position.Garbled .v2 (heartbeatWith 12 81) (heartbeatWith 13 80) where
  ne := by decide
  framing :=
    { length_eq := rfl
      getElem?_eq := by decide
      flag_eq := fun _ => rfl }
  pair := ⟨_, .of_append [0xfd, 9, 1, 0, 7, 1, 2, 0, 0, 0, 4, 0, 0, 0, 2] _ 12 81 13 80,
    .inl (by decide)⟩

end Sample

/-- A receiver without keys finds a signed heartbeat with two wrong bytes, and the marker behind it
is left. -/
theorem Link.scan_garbled_heartbeat :
    (∃ packed, pack ⟨Sample.registry, .static (.ofText "key")⟩ Sample.signedHeartbeat = .ok packed ∧
      packed.bytes = Sample.heartbeatWith 12 81) ∧
    ∃ p : Packet, p.toBytes = Sample.heartbeatWith 13 80 ∧
      scan ⟨Sample.registry, .none⟩ (Sample.heartbeatWith 13 80 ++ [0xfe]) =
        (some (frameOf p .crcFailed), [0xfe]) := by
  have hbytes : (pack ⟨Sample.registry, .static (.ofText "key")⟩
      Sample.signedHeartbeat).toOption.map Packed.bytes = some (Sample.heartbeatWith 12 81) := by
    decide +kernel
  have hleast : Sample.registry.minPayloadSize? .v2 0 = some 9 := by decide +kernel
  cases hpack : pack ⟨Sample.registry, .static (.ofText "key")⟩ Sample.signedHeartbeat with
  | error e =>
      rw [hpack] at hbytes
      cases hbytes
  | ok packed =>
      rw [hpack] at hbytes
      have hbytes := Option.some.inj hbytes
      obtain ⟨p, hp, -, -, hscan⟩ := scan_garbled Sample.registry _ .none _ packed 9
        (Sample.heartbeatWith 13 80) [0xfe] hpack hleast (by decide)
        (hbytes ▸ Sample.garbled_heartbeatWith)
      exact ⟨⟨packed, rfl, hbytes⟩, p, hp, hscan⟩

end Mavlink
