import Mavlink.Proofs.Frame.RoundTrip

/-!
# Packets by position

The two header layouts once more, this time as positions in a buffer: which bytes of a buffer hold
what, if a packet begins at position `i`. Nothing is parsed here; each part is read from where it
stands. The rest of the module shows that the parser reads the same parts.

## Main results

* `Position.parse?_drop_eq_none_iff`: a packet is incomplete exactly if the buffer ends before the
  header or before the declared end.
* `Position.packet_eq`: a packet that is read is the one that stands at the position.
-/

namespace Mavlink

namespace Bytes

/-- The byte at a position; zero after the end. -/
def byteAt (b : Bytes) (i : Nat) : UInt8 :=
  b.getD i 0

/-- The number that `width` bytes from a position on denote, least significant first. -/
def numberAt (b : Bytes) (i width : Nat) : Nat :=
  fromLittleEndian (slice i width b)

/-- A position is counted on from any other. -/
theorem byteAt_add (b : Bytes) (i k : Nat) : b.byteAt (i + k) = byteAt (b.drop i) k := by
  rw [byteAt, byteAt, List.getD_eq_getElem?_getD, List.getD_eq_getElem?_getD, List.getElem?_drop]

/-- A slice is cut out of what is left behind any position in front of it. -/
theorem slice_add (b : Bytes) (i k n : Nat) : slice (i + k) n b = slice k n (b.drop i) := by
  rw [slice, slice, List.drop_drop]

end Bytes

namespace Position

variable (v : Version) (b : Bytes) (i : Nat)

/-! ### What stands where -/

/-- The declared length of the payload. -/
def payloadSize : Nat :=
  (b.byteAt (i + 1)).toNat

/-- Whether a signature is declared. -/
def isSigned : Bool :=
  v = .v2 && b.byteAt (i + 2) &&& signedFlag ≠ 0

/-- Where the sequence number stands in a header; the ids of system and component follow it. -/
def senderOffset : Version → Nat
  | .v1 => 2
  | .v2 => 4

/-- The message id. -/
def messageId : UInt32 :=
  match v with
  | .v1 => UInt32.ofNat (b.numberAt (i + 5) 1)
  | .v2 => UInt32.ofNat (b.numberAt (i + 7) 3)

/-- The position of the checksum. -/
def checksumStart : Nat :=
  i + (v.headerSize + payloadSize b i)

/-- The position after the checksum, which is that of the signature, if there is one. -/
def checksumStop : Nat :=
  i + (v.headerSize + payloadSize b i + 2)

/-- The position after the packet. -/
def stop : Nat :=
  i + (v.headerSize + payloadSize b i + 2 + if isSigned v b i then Signature.size else 0)

/-- The payload. -/
def payload : Bytes :=
  b.slice (i + v.headerSize) (payloadSize b i)

/-- The stored checksum. -/
def checksum : UInt16 :=
  UInt16.ofNat (b.numberAt (checksumStart v b i) 2)

/-- The bytes that the checksum covers: from the one after the marker to the end of the payload. -/
def checkedBytes : Bytes :=
  b.slice (i + 1) (checksumStart v b i - (i + 1))

/-- The bytes that a signature covers: from the marker to the end of the checksum. -/
def signedBytes : Bytes :=
  b.slice i (checksumStop v b i - i)

/-- The stored signature: the link, six bytes of timestamp and six of digest. -/
def signature : Signature where
  linkId := b.byteAt (checksumStop v b i)
  timestamp := UInt64.ofNat (b.numberAt (checksumStop v b i + 1) 6)
  digest := Digest.ofBytes (b.slice (checksumStop v b i + 7) 6)

/-- The header. -/
def header : Header where
  version := v
  incompatFlags := match v with
    | .v1 => 0
    | .v2 => b.byteAt (i + 2)
  compatFlags := match v with
    | .v1 => 0
    | .v2 => b.byteAt (i + 3)
  sequence := b.byteAt (i + senderOffset v)
  systemId := b.byteAt (i + (senderOffset v + 1))
  componentId := b.byteAt (i + (senderOffset v + 2))
  messageId := messageId v b i

/-- The packet. -/
def packet : Packet where
  header := header v b i
  payload := payload v b i
  checksum := checksum v b i
  signature? := if isSigned v b i then some (signature v b i) else none

/-! ### The parser reads what stands there -/

section Header

variable {b i} {h : Header} {n : Nat} {body : Bytes}

/-- The length in a header is found by position. -/
theorem payloadSize_eq (hb : b.drop i = h.toBytes n ++ body) (hn : n ≤ maxPayloadSize) :
    payloadSize b i = n := by
  have hsize : (UInt8.ofNat n).toNat = n := by
    rw [maxPayloadSize] at hn
    rw [UInt8.toNat_ofNat', Nat.mod_eq_of_lt (by omega)]
  obtain ⟨version, incompat, compat, sequence, systemId, componentId, id⟩ := h
  rw [payloadSize, Bytes.byteAt_add, hb]
  cases version <;> exact hsize

/-- The flag that announces a signature is found by position. -/
theorem isSigned_eq (hb : b.drop i = h.toBytes n ++ body) :
    isSigned h.version b i = h.isSigned := by
  obtain ⟨version, incompat, compat, sequence, systemId, componentId, id⟩ := h
  rw [isSigned, Bytes.byteAt_add, hb]
  cases version <;> rfl

/-- The message number in a header is found by position, if the version has room for it. -/
theorem messageId_eq (hb : b.drop i = h.toBytes n ++ body)
    (hid : h.messageId ≤ h.version.maxMessageId) : messageId h.version b i = h.messageId := by
  obtain ⟨version, incompat, compat, sequence, systemId, componentId, id⟩ := h
  have hle : id.toNat ≤ version.maxMessageId.toNat := UInt32.le_iff_toNat_le.mp hid
  cases version with
  | v1 =>
      have hmax : (Version.maxMessageId .v1).toNat = 255 := rfl
      rw [messageId, Bytes.numberAt, Bytes.slice_add, hb]
      show UInt32.ofNat (id.toUInt8.toNat + 256 * 0) = id
      rw [Nat.mul_zero, Nat.add_zero, UInt32.toNat_toUInt8, Nat.mod_eq_of_lt (by omega),
        UInt32.ofNat_toNat]
  | v2 =>
      have hmax : (Version.maxMessageId .v2).toNat = 16777215 := rfl
      have hcount : Bytes.count 3 = 16777216 := rfl
      rw [messageId, Bytes.numberAt, Bytes.slice_add, hb]
      show UInt32.ofNat (Bytes.fromLittleEndian (Bytes.littleEndian 3 id.toNat)) = id
      rw [Bytes.fromLittleEndian_littleEndian (by omega), UInt32.ofNat_toNat]

/-- A header that stands at a position and is carried by its bytes is read from its places. -/
theorem header_eq (hb : b.drop i = h.toBytes n ++ body)
    (hid : h.messageId ≤ h.version.maxMessageId) (hh : h.carried = h) :
    header h.version b i = h := by
  have hmessage := messageId_eq hb hid
  obtain ⟨version, incompat, compat, sequence, systemId, componentId, id⟩ := h
  cases version with
  | v1 =>
      obtain ⟨rfl, rfl⟩ : 0 = incompat ∧ 0 = compat := by simpa [Header.carried] using hh
      simp only [header, hmessage, Bytes.byteAt_add, hb]
      rfl
  | v2 =>
      simp only [header, hmessage, Bytes.byteAt_add, hb]
      rfl

end Header

section Packet

variable {b i} {p : Packet} {rest : Bytes}

/-- Where a packet begins, its parts follow one another. -/
theorem drop_eq (hb : b.drop i = p.toBytes ++ rest) :
    b.drop i = p.header.toBytes p.payload.length ++
      (p.payload ++ (Bytes.littleEndian 2 p.checksum.toNat ++ (p.signatureBytes ++ rest))) := by
  rw [hb, Packet.toBytes_eq]
  simp only [List.append_assoc]

/-- Where a packet begins, the length of its payload is found by position. -/
theorem payloadSize_eq_length (hb : b.drop i = p.toBytes ++ rest) (hp : p.WellFormed) :
    payloadSize b i = p.payload.length :=
  payloadSize_eq (drop_eq hb) hp.payload_le

/-- The payload begins behind the header. -/
theorem drop_headerSize (hb : b.drop i = p.toBytes ++ rest) :
    b.drop (i + p.header.version.headerSize) =
      p.payload ++ (Bytes.littleEndian 2 p.checksum.toNat ++ (p.signatureBytes ++ rest)) := by
  rw [← List.drop_drop, drop_eq hb, List.drop_left' (Header.length_toBytes _ _)]

/-- The checksum begins behind the payload. -/
theorem drop_checksumStart (hb : b.drop i = p.toBytes ++ rest) (hp : p.WellFormed) :
    b.drop (checksumStart p.header.version b i) =
      Bytes.littleEndian 2 p.checksum.toNat ++ (p.signatureBytes ++ rest) := by
  rw [checksumStart, payloadSize_eq_length hb hp, ← Nat.add_assoc, ← List.drop_drop,
    drop_headerSize hb, List.drop_left]

/-- What announces itself as a signature begins behind the checksum. -/
theorem drop_checksumStop (hb : b.drop i = p.toBytes ++ rest) (hp : p.WellFormed) :
    b.drop (checksumStop p.header.version b i) = p.signatureBytes ++ rest := by
  have hstop : checksumStop p.header.version b i = checksumStart p.header.version b i + 2 := rfl
  rw [hstop, ← List.drop_drop, drop_checksumStart hb hp,
    List.drop_left' (Bytes.length_littleEndian _ _)]

/-- What follows a packet is what follows its declared end. -/
theorem drop_stop (hb : b.drop i = p.toBytes ++ rest) (hp : p.WellFormed) :
    b.drop (stop p.header.version b i) = rest := by
  rw [stop, payloadSize_eq_length hb hp, isSigned_eq (drop_eq hb), ← Packet.length_toBytes hp,
    ← List.drop_drop, hb, List.drop_left]

/-- The payload of a packet is found by position. -/
theorem payload_eq (hb : b.drop i = p.toBytes ++ rest) (hp : p.WellFormed) :
    payload p.header.version b i = p.payload := by
  rw [payload, Bytes.slice, drop_headerSize hb, payloadSize_eq_length hb hp, List.take_left]

/-- The checksum of a packet is found by position. -/
theorem checksum_eq (hb : b.drop i = p.toBytes ++ rest) (hp : p.WellFormed) :
    checksum p.header.version b i = p.checksum := by
  rw [checksum, Bytes.numberAt, Bytes.slice, drop_checksumStart hb hp,
    List.take_left' (Bytes.length_littleEndian _ _),
    Bytes.fromLittleEndian_littleEndian p.checksum.toNat_lt, UInt16.ofNat_toNat]

/-- The bytes under the checksum are those of header and payload without the marker. -/
theorem checkedBytes_eq (hb : b.drop i = p.toBytes ++ rest) (hp : p.WellFormed) :
    checkedBytes p.header.version b i = Packet.checkedBytes p.header p.payload := by
  obtain ⟨tail, htail⟩ := p.header.toBytes_eq_cons p.payload.length
  have hlength : p.header.version.headerSize = tail.length + 1 := by
    rw [← Header.length_toBytes p.header p.payload.length, htail, List.length_cons]
  have hcount : checksumStart p.header.version b i - (i + 1) = (tail ++ p.payload).length := by
    rw [checksumStart, payloadSize_eq_length hb hp, hlength, List.length_append]
    omega
  rw [checkedBytes, Bytes.slice, hcount, Packet.checkedBytes, htail, List.tail_cons,
    ← List.drop_drop, drop_eq hb, htail, List.cons_append, List.drop_succ_cons, List.drop_zero,
    ← List.append_assoc, List.take_left]

/-- The bytes under the signature are those of header, payload and checksum. -/
theorem signedBytes_eq (hb : b.drop i = p.toBytes ++ rest) (hp : p.WellFormed) :
    signedBytes p.header.version b i = Packet.signedBytes p.header p.payload p.checksum := by
  have hcount : checksumStop p.header.version b i - i =
      (Packet.signedBytes p.header p.payload p.checksum).length := by
    rw [checksumStop, payloadSize_eq_length hb hp, Packet.signedBytes, List.length_append,
      List.length_append, Header.length_toBytes, Bytes.length_littleEndian]
    omega
  rw [signedBytes, Bytes.slice, hcount, drop_eq hb, ← List.append_assoc, ← List.append_assoc]
  exact List.take_left

/-- The signature of a packet is found by position, if its bytes carry all of it. -/
theorem signature_eq {s : Signature} (hb : b.drop i = p.toBytes ++ rest) (hp : p.WellFormed)
    (hs : p.signature? = some s) (hcarried : s.carried = s) :
    signature p.header.version b i = s := by
  have htail : b.drop (checksumStop p.header.version b i) = s.toBytes ++ rest := by
    rw [drop_checksumStop hb hp, Packet.signatureBytes, hs]
    rfl
  have hslice : ∀ k n, k + n ≤ Signature.size →
      Bytes.slice (checksumStop p.header.version b i + k) n b = Bytes.slice k n s.toBytes := by
    intro k n hk
    rw [← s.length_toBytes] at hk
    rw [Bytes.slice_add, htail, Bytes.slice, Bytes.slice, List.drop_append_of_le_length (by omega),
      List.take_append_of_le_length (by rw [List.length_drop]; omega)]
  have hlink : b.byteAt (checksumStop p.header.version b i) = s.toBytes.headD 0 := by
    rw [← Nat.add_zero (checksumStop _ b i), Bytes.byteAt_add, htail]
    rfl
  rw [signature, Bytes.numberAt, hlink, hslice 1 6 (by decide), hslice 7 6 (by decide)]
  exact (s.ofBytes_toBytes).trans hcarried

/-- **A packet that is carried by the bytes from a position on** is the one that stands there. -/
theorem packet_eq (hb : b.drop i = p.toBytes ++ rest) (hp : p.WellFormed) (hc : p.carried = p) :
    packet p.header.version b i = p := by
  have hheader : p.header.carried = p.header := congrArg Packet.header hc
  have hsignature : p.signature?.map Signature.carried = p.signature? :=
    congrArg Packet.signature? hc
  have hread : (if isSigned p.header.version b i then some (signature p.header.version b i)
      else none) = p.signature? := by
    rw [isSigned_eq (drop_eq hb), ← hp.signature_isSome]
    cases hs : p.signature? with
    | none => rfl
    | some s =>
        rw [hs, Option.map_some, Option.some.injEq] at hsignature
        rw [Option.isSome_some, if_pos rfl, signature_eq hb hp hs hsignature]
  rw [packet, header_eq (drop_eq hb) hp.messageId_le hheader, payload_eq hb hp, checksum_eq hb hp,
    hread]

/-- The declared end of a packet that is read lies within the buffer. -/
theorem stop_le_length (hb : b.drop i = p.toBytes ++ rest) (hp : p.WellFormed) (hi : i ≤ b.length) :
    stop p.header.version b i ≤ b.length := by
  have hlength := congrArg List.length hb
  rw [List.length_drop, List.length_append, Packet.length_toBytes hp] at hlength
  rw [stop, payloadSize_eq_length hb hp, isSigned_eq (drop_eq hb)]
  omega

/-! ### The bytes of one packet -/

/-- A packet begins with the marker of its version. -/
theorem byteAt_toBytes_zero (p : Packet) : p.toBytes.byteAt 0 = p.header.version.marker := by
  have hhead := p.head?_toBytes []
  rw [List.append_nil, List.head?_eq_getElem?] at hhead
  rw [Bytes.byteAt, List.getD_eq_getElem?_getD, hhead, Option.getD_some]

/-- The bytes of a packet end where the packet does. -/
theorem stop_toBytes (hp : p.WellFormed) :
    stop p.header.version p.toBytes 0 = p.toBytes.length := by
  have hb : p.toBytes.drop 0 = p.toBytes ++ [] := (List.append_nil _).symm
  rw [stop, payloadSize_eq_length hb hp, isSigned_eq (drop_eq hb), Packet.length_toBytes hp,
    Nat.zero_add]

/-- **What stands in the bytes of a packet** is what they carry of it. -/
theorem packet_toBytes (hp : p.WellFormed) :
    packet p.header.version p.toBytes 0 = p.carried := by
  obtain ⟨hb, hversion, hwf, hcarried⟩ :=
    Packet.eq_toBytes_of_parse? (p.head?_toBytes []) (Packet.parse?_toBytes hp [])
  have hdrop : p.toBytes.drop 0 = p.carried.toBytes ++ [] := (List.append_nil _).symm.trans hb
  rw [← hversion]
  exact packet_eq hdrop hwf hcarried

end Packet

/-- **A packet is incomplete** exactly if the buffer ends before its header does, or before the
declared end. -/
theorem parse?_drop_eq_none_iff {v : Version} {b : Bytes} {i : Nat}
    (hm : (b.drop i).head? = some v.marker) :
    Packet.parse? v (b.drop i) = none ↔ b.length < i + v.headerSize ∨ b.length < stop v b i := by
  have hi : i < b.length := by
    refine Nat.lt_of_not_le ?_
    intro hle
    rw [List.drop_eq_nil_of_le hle] at hm
    exact absurd hm (by simp)
  constructor
  · intro hnone
    rcases Nat.lt_or_ge b.length (i + v.headerSize) with hheader | hheader
    · exact .inl hheader
    · have hsome : Header.parse? v (b.drop i) ≠ none := by
        rw [Ne, Header.parse?_eq_none_iff, List.length_drop]
        omega
      obtain ⟨⟨h, n, body⟩, hh⟩ := Option.ne_none_iff_exists'.mp hsome
      obtain ⟨hb, rfl, -, -, hn⟩ := Header.eq_toBytes_of_parse? hm hh
      have hlength := congrArg List.length hb
      rw [List.length_drop, List.length_append, Header.length_toBytes] at hlength
      refine .inr (Nat.lt_of_not_le fun hstop => Packet.parse?_ne_none hh ?_ hnone)
      rw [stop, payloadSize_eq hb hn, isSigned_eq hb] at hstop
      omega
  · intro hshort
    cases hparse : Packet.parse? v (b.drop i) with
    | none => rfl
    | some found =>
        obtain ⟨p, rest⟩ := found
        obtain ⟨hb, rfl, hp, -⟩ := Packet.eq_toBytes_of_parse? hm hparse
        have hstop := stop_le_length hb hp (Nat.le_of_lt hi)
        have hheader : i + p.header.version.headerSize ≤ stop p.header.version b i := by
          rw [stop]
          omega
        omega

end Position

end Mavlink
