import Mavlink.Proofs.Frame.Position
import Mavlink.Proofs.Link.Sending

/-!
# What sent bytes carry

The bytes of a sent frame, read at the positions where a packet keeps its parts, give the parts of
the frame back: the version and the numbers of the header, the payload and, of a frame that is
signed, the link and the time of signing. The checks see to it that the message id and the length of
the payload fit into their places. There is no such check of the time of signing: of a time that
takes more than 48 bits the bytes carry the lower 48.

## Main results

* `Link.carries_of_pack`: the bytes carry the frame, with the time of signing cut to 48 bits.
* `Outbox.send_carries`: which frames are carried in full.
-/

namespace Mavlink

/-- The frame that sent bytes **carry**: the time of signing is cut to 48 bits. -/
def Frame.carried (f : Frame) : Frame :=
  { f with signature? := f.signature?.map Signature.carried }

/-- Bytes **carry** a frame if the parts of the frame stand at their places in them. -/
structure Carries (b : Bytes) (f : Frame) : Prop where
  version_eq : Version.ofMarker? (b.byteAt 0) = some f.version
  sequence_eq : (Position.header f.version b 0).sequence = f.sequence
  systemId_eq : (Position.header f.version b 0).systemId = f.systemId
  componentId_eq : (Position.header f.version b 0).componentId = f.componentId
  messageId_eq : (Position.header f.version b 0).messageId = f.messageId
  payload_eq : Position.payload f.version b 0 = f.payload
  signature_eq : f.isSigned = true → ∃ s, f.signature? = some s ∧
    (Position.signature f.version b 0).linkId = s.linkId ∧
    (Position.signature f.version b 0).timestamp = s.timestamp

namespace Link

variable {l : Link} {f : Frame} {packed : Packed}

/-- **Sent bytes carry** the frame that was sent, with the time of signing cut to 48 bits. -/
theorem carries_of_pack (h : l.pack f = .ok packed) : Carries packed.bytes f.carried := by
  obtain ⟨hpayload, hid, crcExtra, signing?, -, hsigning, rfl⟩ := pack_eq_ok_iff.1 h
  have hp : (sentPacket f crcExtra signing?).WellFormed :=
    wellFormed_sentPacket hpayload hid hsigning
  have hpacket : Position.packet f.version (complete f crcExtra signing?).bytes 0 =
      (sentPacket f crcExtra signing?).carried := by
    rw [bytes_complete]
    exact Position.packet_toBytes hp
  obtain ⟨incompatFlags, compatFlags, hcarried⟩ :=
    (sentPacket f crcExtra signing?).header.exists_carried_eq
  have hheader := (congrArg Packet.header hpacket).trans hcarried
  refine ⟨?_, congrArg Header.sequence hheader, congrArg Header.systemId hheader,
    congrArg Header.componentId hheader, congrArg Header.messageId hheader,
    congrArg Packet.payload hpacket, ?_⟩
  · rw [bytes_complete, Position.byteAt_toBytes_zero]
    exact Version.ofMarker?_marker f.version
  · intro hsigned
    have hsome := isSome_of_signing?_eq_ok hsigning
    obtain ⟨⟨s, key⟩, rfl⟩ := Option.isSome_iff_exists.1 (hsome.trans hsigned)
    obtain ⟨-, -, hs, -⟩ := signing?_eq_ok_some_iff.1 hsigning
    have hsignature := congrArg Packet.signature? hpacket
    simp only [Position.packet] at hsignature
    split at hsignature
    · have hsignature := Option.some.inj hsignature
      exact ⟨s.carried, congrArg (Option.map _) hs, (congrArg Signature.linkId hsignature :),
        (congrArg Signature.timestamp hsignature :)⟩
    · contradiction

/-- **Which frames are carried in full**: those that are not signed, and those whose time of signing
fits into 48 bits. -/
theorem carries_iff_of_pack (h : l.pack f = .ok packed) :
    Carries packed.bytes f ↔ ∀ s, f.isSigned = true → f.signature? = some s →
      s.timestamp < Signature.timestampBound := by
  have hcarries := carries_of_pack h
  constructor
  · rintro ⟨-, -, -, -, -, -, hsignature⟩ s hsigned hs
    obtain ⟨s₁, hs₁, -, htime₁⟩ := hsignature hsigned
    obtain ⟨s₂, hs₂, -, htime₂⟩ := hcarries.signature_eq hsigned
    obtain rfl := Option.some.inj (hs.symm.trans hs₁)
    obtain rfl := Option.some.inj ((congrArg (Option.map _) hs).symm.trans hs₂)
    rw [← htime₁]
    exact htime₂ ▸ UInt64.mod_lt _ (by decide)
  · intro hfits
    have hkept : f.isSigned = true → f.carried.signature? = f.signature? := by
      intro hsigned
      rw [Frame.carried]
      cases hs : f.signature? with
      | none => rfl
      | some s => exact congrArg some (Signature.carried_eq_self_iff.2 (hfits s hsigned hs))
    exact { hcarries with
      signature_eq := fun hsigned => hkept hsigned ▸ hcarries.signature_eq hsigned }

end Link

/-- **What sent bytes carry.** If sending fails, nothing is appended. Else the bytes that are
appended carry the frame, with the time of signing cut to 48 bits: so they carry it in full exactly
if it is not signed, or its time of signing takes no more. -/
theorem Outbox.send_carries (l : Link) (o : Outbox) :
    (∀ e o', (send l).run o = .error e o' → o'.stream = o.stream) ∧
    ∀ n o', (send l).run o = .ok n o' → ∃ appended, o'.stream = o.stream ++ appended ∧
      Carries appended o.frame.carried ∧
      (Carries appended o.frame ↔ ∀ s, o.frame.isSigned = true → o.frame.signature? = some s →
        s.timestamp < Signature.timestampBound) := by
  constructor
  · intro e o' herror
    rw [(run_send_eq_error_iff.1 herror).2]
  · intro n o' hok
    obtain ⟨packed, hpack, -, rfl⟩ := run_send_eq_ok_iff.1 hok
    exact ⟨packed.bytes, rfl, Link.carries_of_pack hpack, Link.carries_iff_of_pack hpack⟩

/-- A signed heartbeat is carried in full. -/
theorem Outbox.send_carries_heartbeat :
    ∃ n o', (send ⟨Sample.registry, .static (.ofText "key")⟩).run ⟨[], Sample.signedHeartbeat⟩ =
      .ok n o' ∧ Carries o'.stream Sample.signedHeartbeat := by
  have hok : (Link.pack ⟨Sample.registry, .static (.ofText "key")⟩
      Sample.signedHeartbeat).isOk = true := by decide +kernel
  cases hpack : Link.pack ⟨Sample.registry, .static (.ofText "key")⟩ Sample.signedHeartbeat with
  | error e =>
      rw [hpack] at hok
      cases hok
  | ok packed =>
      have hrun := run_send_eq_ok_iff (o := ⟨[], Sample.signedHeartbeat⟩).2 ⟨_, hpack, rfl, rfl⟩
      obtain ⟨appended, hstream, -, hcarries⟩ := (send_carries _ _).2 _ _ hrun
      refine ⟨_, _, hrun, ?_⟩
      rw [hstream, List.nil_append, hcarries]
      intro s _ hs
      obtain rfl := Option.some.inj hs
      decide

/-- One whose time of signing takes more than 48 bits is sent all the same, but not in full. -/
theorem Outbox.lateHeartbeat_not_carried :
    ∃ n o', (send ⟨Sample.registry, .static (.ofText "key")⟩).run ⟨[], Sample.lateHeartbeat⟩ =
      .ok n o' ∧ ¬ Carries o'.stream Sample.lateHeartbeat := by
  have hok : (Link.pack ⟨Sample.registry, .static (.ofText "key")⟩
      Sample.lateHeartbeat).isOk = true := by decide +kernel
  cases hpack : Link.pack ⟨Sample.registry, .static (.ofText "key")⟩ Sample.lateHeartbeat with
  | error e =>
      rw [hpack] at hok
      cases hok
  | ok packed =>
      have hrun := run_send_eq_ok_iff (o := ⟨[], Sample.lateHeartbeat⟩).2 ⟨_, hpack, rfl, rfl⟩
      refine ⟨_, _, hrun, ?_⟩
      rw [List.nil_append, Link.carries_iff_of_pack hpack]
      intro hfits
      exact absurd (hfits _ rfl rfl) (UInt64.lt_irrefl _)

end Mavlink
