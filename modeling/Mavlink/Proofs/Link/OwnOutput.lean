import Mavlink.Link.Message
import Mavlink.Proofs.Link.RoundTrip
import Mavlink.Proofs.Payload.Length

/-!
# What of its own output a link can read

Fields of a message that fits, once they are written into a frame, can always be sent in it: the
payload is never too long, and the message is known. Whether the receiver of the same link finds the
frame again depends on the version. A frame of the second version is always found. For one of the
first version the receiver asks for the full payload, while the payload that is written ends behind
the last extension field that is given: unless that is the last field of the message, the frame is
sent, and marked as one that may be used, but it is not found again.

## Main results

* `Link.readsBack_sentPacket_iff`: which sent frames are found again.
* `Link.fill_then_pack`: what has been written into a frame can be sent, and when it is found again.
-/

namespace Mavlink

namespace Link

/-- A link **reads back** a frame from the bytes that it was sent as: the receiver finds a frame
that may be used, with the same payload and with the fields that the payload has, and no bytes are
left. -/
def ReadsBack (l : Link) (f : Frame) (sent : Bytes) : Prop :=
  ∃ got, l.scan sent = (some got, []) ∧ got.isValid = true ∧ got.payload = f.payload ∧
    l.fieldsOf got = l.registry.decodePayload f.messageId f.payload

/-! ### Frames without a signature -/

/-- What is completed without a signature may be used. -/
theorem isValid_arrived_complete (f : Frame) (crcExtra : UInt8) :
    (complete f crcExtra none).frame.arrived.isValid = true := by
  cases hv : f.version <;> simp [complete, Frame.arrived, Frame.isValid, Outcome.isValid, hv]

section Unsigned

variable {l : Link} {f : Frame} {crcExtra : UInt8} {least : Nat}

/-- The bytes of a frame of the first version. -/
theorem length_sentPacket_v1 (hv : f.version = .v1)
    (hsent : (sentPacket f crcExtra none).WellFormed) :
    (sentPacket f crcExtra none).toBytes.length =
      Version.v1.headerSize + f.payload.length + 2 := by
  have hsigned : (sentPacket f crcExtra none).header.isSigned = false := hsent.signature_isSome.symm
  have hversion : (sentPacket f crcExtra none).header.version = .v1 := hv
  rw [Packet.length_toBytes hsent, hsigned, hversion]
  rfl

/-- **Which sent frames are found again**: those with a payload that is long enough for the
receiver. A frame of the second version with a shorter payload is left out here: its header has room
for that of a frame of the first version. -/
theorem readsBack_sentPacket_iff (hpayload : f.payload.length ≤ maxPayloadSize)
    (hid : f.messageId ≤ f.version.maxMessageId) (hsigned : f.isSigned = false)
    (hextra : l.registry.crcExtra? f.messageId = some crcExtra)
    (hleast : l.registry.minPayloadSize? f.version f.messageId = some least)
    (hv2 : f.version = .v2 → least ≤ f.payload.length) :
    l.ReadsBack f (sentPacket f crcExtra none).toBytes ↔ least ≤ f.payload.length := by
  have hsigning : l.signing? f = .ok none := signing?_eq_ok_none_iff.2 hsigned
  have hunsigned : f.isSigned = true → l.keys.canValidate = true := by
    intro htrue
    rw [hsigned] at htrue
    contradiction
  have hcandidate := candidate_sentPacket_eq hunsigned hpayload hid hextra hsigning hleast []
  rw [List.append_nil] at hcandidate
  constructor
  · rintro ⟨got, hscan, -, hgot, -⟩
    refine Nat.le_of_not_lt fun hshort => ?_
    -- The frame is rejected, and there is no room for its payload behind its marker.
    have hv : f.version = .v1 := by
      cases hv : f.version with
      | v1 => rfl
      | v2 => exact absurd (hv2 hv) (Nat.not_le.2 hshort)
    have hlen : (sentPacket f crcExtra none).toBytes.length =
        Version.v1.headerSize + f.payload.length + 2 :=
      length_sentPacket_v1 hv (wellFormed_sentPacket hpayload hid hsigning)
    rw [if_pos hshort] at hcandidate
    cases hbytes : (sentPacket f crcExtra none).toBytes with
    | nil =>
        rw [hbytes] at hlen
        have hpos : 0 < Version.v1.headerSize := by decide
        rw [List.length_nil] at hlen
        omega
    | cons x tail =>
        rw [hbytes] at hscan hcandidate hlen
        rw [scan, hcandidate] at hscan
        have hroom := length_payload_le_of_scan hscan
        rw [hgot] at hroom
        rw [List.length_cons] at hlen
        omega
  · intro hlong
    rw [if_neg (Nat.not_lt.2 hlong)] at hcandidate
    exact ⟨_, scan_of_accepted hcandidate, isValid_arrived_complete f crcExtra, rfl, rfl⟩

/-- The same for a frame whose payload has all base fields of its message: it is found again if it
is of the second version, or if it has all extension fields, too. -/
theorem readsBack_iff {m : Layout} (hm : l.registry.message? f.messageId = some m)
    (hid : f.messageId ≤ f.version.maxMessageId) (hsigned : f.isSigned = false)
    (hmin : m.minSize ≤ f.payload.length) (hmax : f.payload.length ≤ m.maxSize)
    (hle : m.maxSize ≤ maxPayloadSize) :
    l.ReadsBack f (sentPacket f m.crcExtra none).toBytes ↔
      f.version = .v2 ∨ f.payload.length = m.maxSize := by
  have hpayload : f.payload.length ≤ maxPayloadSize := Nat.le_trans hmax hle
  have hextra : l.registry.crcExtra? f.messageId = some m.crcExtra := congrArg (Option.map _) hm
  cases hv : f.version with
  | v1 =>
      have hleast : l.registry.minPayloadSize? f.version f.messageId = some m.maxSize := by
        rw [Registry.minPayloadSize?, hm, hv]
        rfl
      rw [readsBack_sentPacket_iff hpayload hid hsigned hextra hleast (hv ▸ Version.noConfusion)]
      constructor
      · intro hfull
        exact .inr (Nat.le_antisymm hmax hfull)
      · rintro (h | h)
        · contradiction
        · exact Nat.le_of_eq h.symm
  | v2 =>
      have hleast : l.registry.minPayloadSize? f.version f.messageId = some m.minSize := by
        rw [Registry.minPayloadSize?, hm, hv]
        rfl
      rw [readsBack_sentPacket_iff hpayload hid hsigned hextra hleast fun _ => hmin]
      exact iff_of_true hmin (.inl rfl)

end Unsigned

/-! ### Written payloads -/

/-- What it takes to fill a frame, and what becomes of it. -/
theorem fill_eq_ok_iff {l : Link} {f g : Frame} {id : UInt32} {fields : Fields} :
    l.fill f id fields = .ok g ↔ ∃ payload, l.registry.encodePayload id fields = .ok payload ∧
      g = { f with payload, messageId := id } := by
  rw [fill]
  cases l.registry.encodePayload id fields with
  | error e =>
      constructor
      · intro h
        cases h
      · rintro ⟨payload, h, -⟩
        cases h
  | ok payload =>
      constructor
      · intro h
        exact ⟨payload, rfl, (Except.ok.inj h).symm⟩
      · rintro ⟨payload', h, rfl⟩
        obtain rfl := Except.ok.inj h
        rfl

/-- **What of its own output a link can read.** Fields of a message that fits, written into a frame
without a signature, can be sent in it, in a payload that ends where the last given extension field
does. The link reads the frame back exactly if it is of the second version or its payload is the
full one. -/
theorem fill_then_pack (d : Dialect) (registry : Registry) (keys : KeyProvider) (f g : Frame)
    (id : UInt32) (fields : Fields) (hr : Registry.compile d = .ok registry)
    (hfits : ∀ m, registry.message? id = some m → m.Fits) (hsigned : f.isSigned = false)
    (hid : id ≤ f.version.maxMessageId)
    (hfill : fill ⟨registry, keys⟩ f id fields = .ok g) :
    ∃ m packed, registry.message? id = some m ∧ m.EndsAt fields g.payload.length ∧
      pack ⟨registry, keys⟩ g = .ok packed ∧ packed.frame.isValid = true ∧
      (ReadsBack ⟨registry, keys⟩ g packed.bytes ↔
        f.version = .v2 ∨ g.payload.length = m.maxSize) := by
  obtain ⟨payload, hencode, rfl⟩ := fill_eq_ok_iff.1 hfill
  obtain ⟨m, hm⟩ := Registry.exists_message_of_encodePayload hencode
  obtain ⟨hends, hmin, hmax, hle⟩ :=
    Registry.endsAt_of_encodePayload hr hm (hfits m hm) hencode
  have hextra : registry.crcExtra? id = some m.crcExtra := congrArg (Option.map _) hm
  refine ⟨m, _, hm, hends, pack_eq_ok_iff.2 ⟨Nat.le_trans hmax hle, hid, m.crcExtra, none, hextra,
    signing?_eq_ok_none_iff.2 hsigned, rfl⟩, ?_, ?_⟩
  · exact isValid_arrived_complete { f with payload, messageId := id } m.crcExtra
  · rw [bytes_complete]
    exact readsBack_iff hm hid hsigned hmin hmax hle

end Link

namespace Sample

/-- A frame of the first version that is to be filled. -/
def draftV1 : Frame where
  version := .v1
  sequence := 7
  systemId := 1
  componentId := 1
  messageId := 0
  payload := []
  checksum := 0
  isSigned := false
  incompatFlags := 0
  compatFlags := 0
  signature? := none
  outcome := .unknown

/-- A warning for the operator, without the extension fields. -/
def warningFields : Fields :=
  .ofList [("severity", .scalar (.uint 4)), ("text", .scalar (.text "low battery"))]

/-- The warning in a frame of the first version: its payload ends behind the base fields. -/
def warningV1 : Frame :=
  { draftV1 with messageId := 253, payload := 4 :: Bytes.fit 50 (Text.bytes "low battery") }

/-- The bytes of the warning. -/
def warningBytes : Bytes :=
  [0xfe, 51, 7, 1, 1, 253] ++ warningV1.payload ++ [0x42, 0x89]

end Sample

namespace Link

/-- A heartbeat has no extension fields, so it is read back. -/
theorem fill_then_pack_heartbeat :
    ∃ g packed, fill Sample.link Sample.draftV1 0 ∅ = .ok g ∧ pack Sample.link g = .ok packed ∧
      ReadsBack Sample.link g packed.bytes := by
  have hsizes : (fill Sample.link Sample.draftV1 0 ∅).map (fun g => g.payload.length) = .ok 9 ∧
      (Sample.registry.message? 0).map Layout.maxSize = some 9 := by decide +kernel
  obtain ⟨hlen, hsize⟩ := hsizes
  cases hfill : fill Sample.link Sample.draftV1 0 ∅ with
  | error e =>
      rw [hfill] at hlen
      cases hlen
  | ok g =>
      obtain ⟨m, packed, hm, -, hpack, -, hreads⟩ :=
        fill_then_pack Sample.dialect Sample.registry .none Sample.draftV1 g 0 ∅
          Sample.compile_dialect (fun m => Sample.fits_registry.of_message?) rfl (by decide) hfill
      rw [hm] at hsize
      rw [hfill] at hlen
      refine ⟨g, packed, rfl, hpack, hreads.2 (.inr ?_)⟩
      exact (Except.ok.inj hlen).trans (Option.some.inj hsize).symm

/-- A warning without extension fields is sent in a frame of the first version and marked as one
that may be used, but it is not read back: no frame is found, and all its bytes are given up. -/
theorem warning_not_readsBack :
    fill Sample.link Sample.draftV1 253 Sample.warningFields = .ok Sample.warningV1 ∧
      (pack Sample.link Sample.warningV1).map (fun packed => (packed.bytes, packed.frame.outcome)) =
        .ok (Sample.warningBytes, .ok) ∧
      Sample.link.scan Sample.warningBytes = (none, []) ∧
      ¬ ReadsBack Sample.link Sample.warningV1 Sample.warningBytes := by
  have hrun : fill Sample.link Sample.draftV1 253 Sample.warningFields = .ok Sample.warningV1 ∧
      (pack Sample.link Sample.warningV1).map (fun packed => (packed.bytes, packed.frame.outcome)) =
        .ok (Sample.warningBytes, .ok) ∧
      Sample.link.scan Sample.warningBytes = (none, []) := by decide +kernel
  obtain ⟨hfill, hpack, hscan⟩ := hrun
  refine ⟨hfill, hpack, hscan, ?_⟩
  rintro ⟨got, hgot, -⟩
  rw [hscan] at hgot
  cases hgot

end Link

end Mavlink
