import Mavlink.Frame.Packet

/-!
# Packets and their bytes

Writing a packet forgets what the wire has no room for: the flags of a header of the first version
and all but the lower 48 bits of a timestamp. What is left is the *carried* packet. This module
proves that the bytes determine the carried packet, whatever follows them, and that nothing but
written packets is ever read.

## Main results

* `Packet.parse?_toBytes`: a written packet reads back as what it carries, and what follows is left.
* `Packet.parse?_eq_some_iff`: at a marker, the packets that are read are exactly the well-formed
  ones that the bytes begin with.
* `Packet.parse?_append`: a packet that has arrived stays the same when more bytes arrive.
-/

namespace Mavlink

/-! ### Headers -/

namespace Header

/-- The part of a header that its bytes **carry**: there are no flags in the first version. -/
def carried (h : Header) : Header :=
  match h.version with
  | .v1 => { h with incompatFlags := 0, compatFlags := 0 }
  | .v2 => h

/-- The version survives. -/
@[simp] theorem version_carried (h : Header) : h.carried.version = h.version := by
  obtain ⟨version, incompat, compat, sequence, systemId, componentId, messageId⟩ := h
  cases version <;> rfl

/-- The flags that announce a signature survive: the first version never announces one. -/
@[simp] theorem isSigned_carried (h : Header) : h.carried.isSigned = h.isSigned := by
  obtain ⟨version, incompat, compat, sequence, systemId, componentId, messageId⟩ := h
  cases version <;> rfl

/-- The flags apart, a header is carried as it is. -/
theorem exists_carried_eq (h : Header) : ∃ incompatFlags compatFlags,
    h.carried = { h with incompatFlags, compatFlags } := by
  obtain ⟨version, incompat, compat, sequence, systemId, componentId, messageId⟩ := h
  cases version <;> exact ⟨_, _, rfl⟩

/-- The carried part of a header has the same bytes. -/
@[simp] theorem toBytes_carried (h : Header) (n : Nat) : h.carried.toBytes n = h.toBytes n := by
  obtain ⟨version, incompat, compat, sequence, systemId, componentId, messageId⟩ := h
  cases version <;> rfl

/-- A header is as long as its version says. -/
@[simp] theorem length_toBytes (h : Header) (n : Nat) :
    (h.toBytes n).length = h.version.headerSize := by
  obtain ⟨version, incompat, compat, sequence, systemId, componentId, messageId⟩ := h
  cases version <;> simp [toBytes, Version.headerSize]

/-- A header begins with the marker of its version. -/
theorem toBytes_eq_cons (h : Header) (n : Nat) :
    ∃ rest, h.toBytes n = h.version.marker :: rest := by
  obtain ⟨version, incompat, compat, sequence, systemId, componentId, messageId⟩ := h
  cases version <;> exact ⟨_, rfl⟩

/-- A written header reads back as what it carries. -/
theorem parse?_toBytes {h : Header} {n : Nat} (hid : h.messageId ≤ h.version.maxMessageId)
    (hn : n ≤ maxPayloadSize) (rest : Bytes) :
    parse? h.version (h.toBytes n ++ rest) = some (h.carried, n, rest) := by
  obtain ⟨version, incompat, compat, sequence, systemId, componentId, messageId⟩ := h
  have hsize : (UInt8.ofNat n).toNat = n := by
    rw [maxPayloadSize] at hn
    rw [UInt8.toNat_ofNat', Nat.mod_eq_of_lt (by omega)]
  have hle : messageId.toNat ≤ version.maxMessageId.toNat := UInt32.le_iff_toNat_le.mp hid
  cases version with
  | v1 =>
      have hmax : (Version.maxMessageId .v1).toNat = 255 := rfl
      have hid8 : messageId.toUInt8.toUInt32 = messageId := by
        refine UInt32.toNat_inj.mp ?_
        rw [UInt8.toNat_toUInt32, UInt32.toNat_toUInt8]
        exact Nat.mod_eq_of_lt (by omega)
      simp only [toBytes, List.cons_append, List.nil_append, parse?, hsize, hid8, carried]
  | v2 =>
      have hmax : (Version.maxMessageId .v2).toNat = 16777215 := rfl
      have hcount : Bytes.count 3 = 16777216 := rfl
      have hlt : messageId.toNat < Bytes.count 3 := by omega
      have hid24 := Bytes.fromLittleEndian_littleEndian hlt
      obtain ⟨a, b, c, habc⟩ :
          ∃ a b c, Bytes.littleEndian 3 messageId.toNat = [a, b, c] := ⟨_, _, _, rfl⟩
      rw [habc] at hid24
      simp only [toBytes, habc, List.cons_append, List.nil_append, parse?, hsize, hid24,
        UInt32.ofNat_toNat, carried]

/-- Whatever is read as a header is the writing of that header. -/
theorem eq_toBytes_of_parse? {v : Version} {b rest : Bytes} {h : Header} {n : Nat}
    (hm : b.head? = some v.marker) (hp : parse? v b = some (h, n, rest)) :
    b = h.toBytes n ++ rest ∧ h.version = v ∧ h.carried = h ∧
      h.messageId ≤ h.version.maxMessageId ∧ n ≤ maxPayloadSize := by
  rw [parse?.eq_def] at hp
  split at hp
  · next m size sequence systemId componentId id tail =>
    simp only [Option.some.injEq, Prod.mk.injEq] at hp
    obtain ⟨rfl, rfl, rfl⟩ := hp
    have hsize := size.toNat_lt
    have hid := id.toNat_lt
    refine ⟨?_, rfl, rfl, ?_, Nat.le_of_lt_succ hsize⟩
    · have hm : m = Version.marker .v1 := by simpa using hm
      simp [toBytes, hm]
    · rw [UInt32.le_iff_toNat_le, UInt8.toNat_toUInt32]
      exact Nat.le_of_lt_succ hid
  · next m size incompat compat sequence systemId componentId a b c tail =>
    simp only [Option.some.injEq, Prod.mk.injEq] at hp
    obtain ⟨rfl, rfl, rfl⟩ := hp
    have hsize := size.toNat_lt
    have hcount : Bytes.count [a, b, c].length = 16777216 := rfl
    have hmax : (Version.maxMessageId .v2).toNat = 16777215 := rfl
    have hid := Bytes.fromLittleEndian_lt [a, b, c]
    have hid32 : (UInt32.ofNat (Bytes.fromLittleEndian [a, b, c])).toNat =
        Bytes.fromLittleEndian [a, b, c] := by
      rw [UInt32.toNat_ofNat', Nat.mod_eq_of_lt (by omega)]
    refine ⟨?_, rfl, rfl, ?_, Nat.le_of_lt_succ hsize⟩
    · have hm : m = Version.marker .v2 := by simpa using hm
      have habc := Bytes.littleEndian_fromLittleEndian [a, b, c]
      simp only [List.length_cons, List.length_nil] at habc
      simp [toBytes, hm, hid32, habc]
    · refine UInt32.le_iff_toNat_le.mpr ?_
      show (UInt32.ofNat _).toNat ≤ (Version.maxMessageId .v2).toNat
      rw [hid32, hmax]
      omega
  · contradiction

/-- A header is missing exactly if its bytes have not arrived. -/
theorem parse?_eq_none_iff {v : Version} {b : Bytes} :
    parse? v b = none ↔ b.length < v.headerSize := by
  constructor
  · intro h
    refine Nat.lt_of_not_le ?_
    intro hlen
    cases v with
    | v1 =>
        rcases b with _ | ⟨_, _ | ⟨_, _ | ⟨_, _ | ⟨_, _ | ⟨_, _ | ⟨_, _⟩⟩⟩⟩⟩⟩ <;>
          simp [parse?, Version.headerSize] at h hlen
    | v2 =>
        rcases b with _ | ⟨_, _ | ⟨_, _ | ⟨_, _ | ⟨_, _ | ⟨_, _ | ⟨_, _ | ⟨_, _ | ⟨_, _ | ⟨_, _ |
          ⟨_, _⟩⟩⟩⟩⟩⟩⟩⟩⟩⟩ <;> simp [parse?, Version.headerSize] at h hlen
  · intro hlen
    rw [parse?.eq_def]
    split
    · simp [Version.headerSize] at hlen
      omega
    · simp [Version.headerSize] at hlen
      omega
    · rfl

end Header

/-! ### Signatures -/

/-- A digest is determined by its bytes. -/
@[simp] theorem Digest.ofBytes_toList (d : Digest) : Digest.ofBytes d.toList = d := by
  refine Vector.toList_inj.mp ?_
  rw [Digest.ofBytes, Bytes.toList_toVector, Bytes.fit_of_length_eq d.length_toList]

/-- Six bytes are the bytes of the digest that they make. -/
theorem Digest.toList_ofBytes {b : Bytes} (h : b.length = 6) : (Digest.ofBytes b).toList = b := by
  rw [Digest.ofBytes, Bytes.toList_toVector, Bytes.fit_of_length_eq h]

namespace Signature

/-- The part of a signature that its bytes **carry**: the lower 48 bits of the timestamp. -/
def carried (s : Signature) : Signature :=
  { s with timestamp := s.timestamp % timestampBound }

/-- The bound of timestamps is the number of strings of six bytes. -/
theorem toNat_timestampBound : timestampBound.toNat = Bytes.count 6 := rfl

/-- The signatures whose bytes carry all of them. -/
theorem carried_eq_self_iff {s : Signature} :
    s.carried = s ↔ s.timestamp < timestampBound := by
  constructor
  · intro h
    rw [← congrArg timestamp h]
    exact UInt64.mod_lt _ (by decide)
  · intro hlt
    rw [carried, UInt64.mod_eq_of_lt hlt]

/-- A written signature reads back as what it carries. -/
theorem ofBytes_toBytes (s : Signature) : ofBytes s.toBytes = s.carried := by
  obtain ⟨linkId, timestamp, digest⟩ := s
  have hbytes : toBytes ⟨linkId, timestamp, digest⟩ =
      linkId :: (Bytes.littleEndian 6 timestamp.toNat ++ digest.toList) := rfl
  have hlength : (Bytes.littleEndian 6 timestamp.toNat).length = 6 := Bytes.length_littleEndian _ _
  have htime : Bytes.slice 1 6 (toBytes ⟨linkId, timestamp, digest⟩) =
      Bytes.littleEndian 6 timestamp.toNat := by
    rw [hbytes, Bytes.slice, List.drop_succ_cons, List.drop_zero, List.take_left' hlength]
  have hdigest : Bytes.slice 7 6 (toBytes ⟨linkId, timestamp, digest⟩) = digest.toList := by
    rw [hbytes, Bytes.slice, List.drop_succ_cons, List.drop_left' hlength, List.take_of_length_le]
    exact Nat.le_of_eq digest.length_toList
  have hmod : UInt64.ofNat (timestamp.toNat % Bytes.count 6) = timestamp % timestampBound := by
    rw [← toNat_timestampBound, ← UInt64.toNat_mod, UInt64.ofNat_toNat]
  rw [ofBytes, htime, hdigest, Bytes.fromLittleEndian_littleEndian_mod, hmod,
    Digest.ofBytes_toList, hbytes, List.headD_cons, carried]

/-- Thirteen bytes are the bytes of the signature that they read as. -/
theorem toBytes_ofBytes {b : Bytes} (h : b.length = size) : (ofBytes b).toBytes = b := by
  cases b with
  | nil => exact absurd h (by decide)
  | cons linkId b =>
      have hb : b.length = 12 := by simpa [size] using h
      have htime : (b.take 6).length = 6 := by rw [List.length_take, hb]; rfl
      have hdigest : ((b.drop 6).take 6).length = 6 := by
        rw [List.length_take, List.length_drop, hb]; rfl
      have hlt : Bytes.fromLittleEndian (b.take 6) < 2 ^ 64 := by
        have hcount : Bytes.count 6 = 281474976710656 := rfl
        have := Bytes.fromLittleEndian_lt (b.take 6)
        rw [htime] at this
        omega
      have hwrite := Bytes.littleEndian_fromLittleEndian (b.take 6)
      rw [htime] at hwrite
      have htail : (b.drop 6).take 6 = b.drop 6 :=
        List.take_of_length_le (Nat.le_of_eq (by rw [List.length_drop, hb]))
      have hstamp : (UInt64.ofNat (Bytes.fromLittleEndian (b.take 6))).toNat =
          Bytes.fromLittleEndian (b.take 6) := by
        rw [UInt64.toNat_ofNat', Nat.mod_eq_of_lt hlt]
      simp only [ofBytes, toBytes, Bytes.slice, List.drop_succ_cons, List.drop_zero,
        List.headD_cons, hstamp, hwrite, Digest.toList_ofBytes hdigest]
      rw [List.cons_append, htail, List.take_append_drop]

/-- What is read as a signature has a timestamp that its bytes have room for. -/
@[simp] theorem carried_ofBytes {b : Bytes} (h : b.length = size) :
    (ofBytes b).carried = ofBytes b := by
  rw [← ofBytes_toBytes, toBytes_ofBytes h]

end Signature

/-! ### Packets -/

namespace Packet

/-- A packet is **well-formed** if its header has room for the message id and for the length of the
payload, and announces a signature exactly if there is one. -/
structure WellFormed (p : Packet) : Prop where
  messageId_le : p.header.messageId ≤ p.header.version.maxMessageId
  payload_le : p.payload.length ≤ maxPayloadSize
  signature_isSome : p.signature?.isSome = p.header.isSigned

/-- The part of a packet that its bytes **carry**. -/
def carried (p : Packet) : Packet :=
  { p with header := p.header.carried, signature? := p.signature?.map Signature.carried }

/-- The bytes of a packet's signature. -/
def signatureBytes (p : Packet) : Bytes :=
  (p.signature?.map Signature.toBytes).getD []

/-- A checksum covers the carried part of a header only. -/
@[simp] theorem checkedBytes_carried (h : Header) (payload : Bytes) :
    checkedBytes h.carried payload = checkedBytes h payload := by
  rw [checkedBytes, Header.toBytes_carried, checkedBytes]

/-- A signature covers the carried part of a header only. -/
@[simp] theorem signedBytes_carried (h : Header) (payload : Bytes) (checksum : UInt16) :
    signedBytes h.carried payload checksum = signedBytes h payload checksum := by
  rw [signedBytes, Header.toBytes_carried, signedBytes]

/-- The parts of a packet in their order. -/
theorem toBytes_eq (p : Packet) :
    p.toBytes = p.header.toBytes p.payload.length ++
      (p.payload ++ (Bytes.littleEndian 2 p.checksum.toNat ++ p.signatureBytes)) := by
  obtain ⟨header, payload, checksum, signature?⟩ := p
  cases signature? <;>
    simp only [toBytes, signedBytes, signatureBytes, Option.map_none, Option.map_some,
      Option.getD_none, Option.getD_some, List.append_assoc]

/-- A packet begins with the marker of its version. -/
theorem head?_toBytes (p : Packet) (rest : Bytes) :
    (p.toBytes ++ rest).head? = some p.header.version.marker := by
  obtain ⟨tail, htail⟩ := p.header.toBytes_eq_cons p.payload.length
  rw [toBytes_eq, htail]
  rfl

/-- The bytes of a packet, counted part by part. -/
theorem length_toBytes {p : Packet} (hp : p.WellFormed) :
    p.toBytes.length = p.header.version.headerSize + p.payload.length + 2 +
      if p.header.isSigned then Signature.size else 0 := by
  have hsignature : p.signatureBytes.length =
      if p.header.isSigned then Signature.size else 0 := by
    rw [← hp.signature_isSome, signatureBytes]
    cases p.signature? <;> simp
  rw [toBytes_eq, List.length_append, List.length_append, List.length_append,
    Header.length_toBytes, Bytes.length_littleEndian, hsignature]
  omega

/-- The signature block of a well-formed packet reads back as what it carries. -/
theorem parseSignature?_signatureBytes {p : Packet} (hp : p.WellFormed) (rest : Bytes) :
    parseSignature? p.header.carried (p.signatureBytes ++ rest) =
      some (p.signature?.map Signature.carried, rest) := by
  have hsome := hp.signature_isSome
  rw [parseSignature?, Header.isSigned_carried, ← hsome, signatureBytes]
  cases p.signature? with
  | none => rfl
  | some s =>
      have hsplit : Bytes.split? Signature.size (s.toBytes ++ rest) = some (s.toBytes, rest) :=
        Bytes.split?_eq_some_iff.mpr ⟨rfl, s.length_toBytes⟩
      simp only [Option.isSome_some, if_true, Option.map_some, Option.getD_some, hsplit,
        Signature.ofBytes_toBytes]

/-- **A written packet reads back** as what it carries, and what follows it is left. -/
theorem parse?_toBytes {p : Packet} (hp : p.WellFormed) (rest : Bytes) :
    parse? p.header.version (p.toBytes ++ rest) = some (p.carried, rest) := by
  have hheader := Header.parse?_toBytes hp.messageId_le hp.payload_le
    (p.payload ++ (Bytes.littleEndian 2 p.checksum.toNat ++ (p.signatureBytes ++ rest)))
  have hpayload : Bytes.split? p.payload.length
      (p.payload ++ (Bytes.littleEndian 2 p.checksum.toNat ++ (p.signatureBytes ++ rest))) =
        some (p.payload, Bytes.littleEndian 2 p.checksum.toNat ++ (p.signatureBytes ++ rest)) :=
    Bytes.split?_eq_some_iff.mpr ⟨rfl, rfl⟩
  have hchecksum : Bytes.split? 2
      (Bytes.littleEndian 2 p.checksum.toNat ++ (p.signatureBytes ++ rest)) =
        some (Bytes.littleEndian 2 p.checksum.toNat, p.signatureBytes ++ rest) :=
    Bytes.split?_eq_some_iff.mpr ⟨rfl, Bytes.length_littleEndian _ _⟩
  have hvalue : UInt16.ofNat (Bytes.fromLittleEndian (Bytes.littleEndian 2 p.checksum.toNat)) =
      p.checksum := by
    rw [Bytes.fromLittleEndian_littleEndian p.checksum.toNat_lt, UInt16.ofNat_toNat]
  rw [toBytes_eq]
  simp only [parse?, List.append_assoc, hheader, hpayload, hchecksum,
    parseSignature?_signatureBytes hp, hvalue, Option.bind_eq_bind, Option.bind_some,
    Option.pure_def, carried]

/-- The signature block that is read is the one that is written. -/
theorem eq_of_parseSignature? {h : Header} {b rest : Bytes} {s : Option Signature}
    (hp : parseSignature? h b = some (s, rest)) :
    b = (s.map Signature.toBytes).getD [] ++ rest ∧ s.isSome = h.isSigned ∧
      s.map Signature.carried = s := by
  rw [parseSignature?] at hp
  split at hp
  · next hsigned =>
    obtain ⟨⟨block, tail⟩, hsplit, heq⟩ := Option.map_eq_some_iff.mp hp
    obtain ⟨rfl, rfl⟩ := Prod.mk.injEq .. ▸ heq
    obtain ⟨rfl, hlength⟩ := Bytes.split?_eq_some_iff.mp hsplit
    refine ⟨?_, hsigned.symm, ?_⟩
    · rw [Option.map_some, Option.getD_some, Signature.toBytes_ofBytes hlength]
    · rw [Option.map_some, Signature.carried_ofBytes hlength]
  · next hsigned =>
    obtain ⟨rfl, rfl⟩ := Prod.mk.injEq .. ▸ Option.some.inj hp
    exact ⟨rfl, (Bool.eq_false_iff.mpr hsigned).symm, rfl⟩

/-- Whatever is read as a packet is the writing of that packet. -/
theorem eq_toBytes_of_parse? {v : Version} {b rest : Bytes} {p : Packet}
    (hm : b.head? = some v.marker) (hp : parse? v b = some (p, rest)) :
    b = p.toBytes ++ rest ∧ p.header.version = v ∧ p.WellFormed ∧ p.carried = p := by
  simp only [parse?, Option.bind_eq_bind, Option.bind_eq_some_iff, Prod.exists, Option.pure_def,
    Option.some.injEq, Prod.mk.injEq] at hp
  obtain ⟨header, n, b₁, h₁, payload, b₂, h₂, block, b₃, h₃, signature?, b₄, h₄, rfl, rfl⟩ := hp
  obtain ⟨rfl, hversion, hheader, hid, hn⟩ := Header.eq_toBytes_of_parse? hm h₁
  obtain ⟨rfl, rfl⟩ := Bytes.split?_eq_some_iff.mp h₂
  obtain ⟨rfl, hblock⟩ := Bytes.split?_eq_some_iff.mp h₃
  obtain ⟨rfl, hsome, hsignature⟩ := eq_of_parseSignature? h₄
  have hlt := Bytes.fromLittleEndian_lt block
  have hwrite := Bytes.littleEndian_fromLittleEndian block
  rw [hblock] at hlt hwrite
  have hvalue : (UInt16.ofNat (Bytes.fromLittleEndian block)).toNat =
      Bytes.fromLittleEndian block := by
    rw [UInt16.toNat_ofNat']
    exact Nat.mod_eq_of_lt hlt
  refine ⟨?_, hversion, ⟨hid, hn, hsome⟩, ?_⟩
  · rw [toBytes_eq]
    simp only [signatureBytes, hvalue, hwrite, List.append_assoc]
  · rw [carried, hheader, hsignature]

/-- **At a marker**, the packets that are read are exactly the well-formed ones that the bytes
begin with, as far as bytes carry them. -/
theorem parse?_eq_some_iff {v : Version} {b rest : Bytes} {p : Packet}
    (hm : b.head? = some v.marker) :
    parse? v b = some (p, rest) ↔
      b = p.toBytes ++ rest ∧ p.header.version = v ∧ p.WellFormed ∧ p.carried = p := by
  constructor
  · exact eq_toBytes_of_parse? hm
  · rintro ⟨rfl, rfl, hp, hcarried⟩
    rw [parse?_toBytes hp, hcarried]

/-- Bytes enough for what a header declares are read as a packet. -/
theorem parse?_ne_none {v : Version} {b body : Bytes} {h : Header} {n : Nat}
    (hh : Header.parse? v b = some (h, n, body))
    (hlen : n + 2 + (if h.isSigned then Signature.size else 0) ≤ body.length) :
    parse? v b ≠ none := by
  have hsplit : ∀ {k : Nat} {c : Bytes}, k ≤ c.length →
      Bytes.split? k c = some (c.take k, c.drop k) := fun hk =>
    Bytes.split?_eq_some_iff.mpr ⟨(List.take_append_drop _ _).symm, List.length_take_of_le hk⟩
  have hpayload := hsplit (show n ≤ body.length by omega)
  have hchecksum := hsplit (show 2 ≤ (body.drop n).length by rw [List.length_drop]; omega)
  have hsignature : parseSignature? h ((body.drop n).drop 2) ≠ none := by
    rw [parseSignature?]
    split
    · next hsigned =>
      rw [if_pos hsigned] at hlen
      have hblock := hsplit (show Signature.size ≤ ((body.drop n).drop 2).length by
        rw [List.length_drop, List.length_drop]; omega)
      rw [hblock]
      exact Option.some_ne_none _
    · exact Option.some_ne_none _
  obtain ⟨⟨s, rest⟩, hs⟩ := Option.ne_none_iff_exists'.mp hsignature
  simp only [parse?, hh, hpayload, hchecksum, hs, Option.bind_eq_bind, Option.bind_some,
    Option.pure_def]
  exact Option.some_ne_none _

/-- **A packet that has arrived** stays the same when more bytes arrive. -/
theorem parse?_append {v : Version} {b rest : Bytes} {p : Packet}
    (hm : b.head? = some v.marker) (hp : parse? v b = some (p, rest)) (more : Bytes) :
    parse? v (b ++ more) = some (p, rest ++ more) := by
  obtain ⟨rfl, rfl, hwf, hcarried⟩ := (parse?_eq_some_iff hm).1 hp
  rw [List.append_assoc, parse?_toBytes hwf, hcarried]

end Packet

end Mavlink
