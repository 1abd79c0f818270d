import Mavlink.Frame.Basic

/-!
# Packets

A packet is a frame as bytes: the header, the payload, the checksum and, if the header announces
one, the signature. This module knows the two header layouts and nothing about messages or keys:
any bytes that are long enough for what their header announces are a packet.

## Main results

* `Packet.length_rest_lt`: what follows a packet is shorter than what it begins.
-/

namespace Mavlink

/-- The header of a packet, apart from the length of the payload. The message id has one byte in
the first version and three in the second; the flags exist in the second version only. -/
structure Header where
  version : Version
  incompatFlags : UInt8
  compatFlags : UInt8
  sequence : UInt8
  systemId : UInt8
  componentId : UInt8
  messageId : UInt32
  deriving DecidableEq, Repr

namespace Header

/-- Whether the header announces a signature. -/
def isSigned (h : Header) : Bool :=
  h.version = .v2 && h.incompatFlags &&& signedFlag ≠ 0

/-- The bytes of the header, with the length of the payload. -/
def toBytes (h : Header) (payloadSize : Nat) : Bytes :=
  match h.version with
  | .v1 =>
    [Version.marker .v1, UInt8.ofNat payloadSize, h.sequence, h.systemId, h.componentId,
      h.messageId.toUInt8]
  | .v2 =>
    [Version.marker .v2, UInt8.ofNat payloadSize, h.incompatFlags, h.compatFlags, h.sequence,
      h.systemId, h.componentId] ++ Bytes.littleEndian 3 h.messageId.toNat

/-- Reads a header of the given version: the header, the length of the payload and the bytes that
follow. -/
def parse? (version : Version) (b : Bytes) : Option (Header × Nat × Bytes) :=
  match version, b with
  | .v1, _ :: length :: sequence :: systemId :: componentId :: id :: rest =>
    some ({ version := .v1, incompatFlags := 0, compatFlags := 0, sequence, systemId, componentId,
            messageId := id.toUInt32 }, length.toNat, rest)
  | .v2, _ :: length :: incompatFlags :: compatFlags :: sequence :: systemId :: componentId ::
      id₀ :: id₁ :: id₂ :: rest =>
    some ({ version := .v2, incompatFlags, compatFlags, sequence, systemId, componentId,
            messageId := UInt32.ofNat (Bytes.fromLittleEndian [id₀, id₁, id₂]) },
          length.toNat, rest)
  | _, _ => none

/-- A header that was read uses up bytes. -/
theorem length_rest_lt {version : Version} {b : Bytes} {h : Header} {n : Nat} {rest : Bytes}
    (hp : parse? version b = some (h, n, rest)) : rest.length < b.length := by
  unfold parse? at hp
  split at hp
  · obtain ⟨-, -, rfl⟩ := by simpa only [Option.some.injEq, Prod.mk.injEq] using hp
    simp only [List.length_cons]
    omega
  · obtain ⟨-, -, rfl⟩ := by simpa only [Option.some.injEq, Prod.mk.injEq] using hp
    simp only [List.length_cons]
    omega
  · contradiction

end Header

/-- The parts of a frame as they stand in its bytes. -/
structure Packet where
  header : Header
  payload : Bytes
  checksum : UInt16
  signature? : Option Signature
  deriving DecidableEq, Repr

namespace Packet

/-- The bytes that the checksum covers: header and payload without the marker. -/
def checkedBytes (header : Header) (payload : Bytes) : Bytes :=
  (header.toBytes payload.length).tail ++ payload

/-- The bytes that a signature covers: header, payload and checksum. -/
def signedBytes (header : Header) (payload : Bytes) (checksum : UInt16) : Bytes :=
  header.toBytes payload.length ++ payload ++ Bytes.littleEndian 2 checksum.toNat

/-- The bytes of a packet. -/
def toBytes (p : Packet) : Bytes :=
  signedBytes p.header p.payload p.checksum ++
    match p.signature? with
    | none => []
    | some s => s.toBytes

/-- Reads the signature that a header announces, and the bytes that follow. -/
def parseSignature? (h : Header) (b : Bytes) : Option (Option Signature × Bytes) :=
  if h.isSigned then
    (Bytes.split? Signature.size b).map fun (block, rest) => (some (Signature.ofBytes block), rest)
  else some (none, b)

/-- Reads a packet of the given version and the bytes that follow, if the bytes are long enough
for what the header announces. -/
def parse? (version : Version) (b : Bytes) : Option (Packet × Bytes) := do
  let (header, payloadSize, b) ← Header.parse? version b
  let (payload, b) ← Bytes.split? payloadSize b
  let (checksum, b) ← Bytes.split? 2 b
  let (signature?, b) ← parseSignature? header b
  return ({ header, payload, checksum := UInt16.ofNat (Bytes.fromLittleEndian checksum),
            signature? }, b)

/-- Splitting a string leaves no more bytes than it had. -/
theorem length_rest_le_of_split? {n : Nat} {b front rest : Bytes}
    (h : Bytes.split? n b = some (front, rest)) : rest.length ≤ b.length := by
  obtain ⟨rfl, -⟩ := Bytes.split?_eq_some_iff.1 h
  simp

/-- Reading a signature, or none, leaves no more bytes than there were. -/
theorem length_rest_le_of_parseSignature? {h : Header} {b rest : Bytes} {s : Option Signature}
    (hp : parseSignature? h b = some (s, rest)) : rest.length ≤ b.length := by
  unfold parseSignature? at hp
  split at hp
  · obtain ⟨⟨block, rest'⟩, hsplit, heq⟩ := Option.map_eq_some_iff.1 hp
    obtain ⟨-, rfl⟩ := Prod.mk.injEq .. ▸ heq
    exact length_rest_le_of_split? hsplit
  · obtain ⟨-, rfl⟩ := Prod.mk.injEq .. ▸ Option.some.inj hp
    exact Nat.le_refl _

/-- What follows a packet is shorter than what it begins. -/
theorem length_rest_lt {version : Version} {b rest : Bytes} {p : Packet}
    (hp : parse? version b = some (p, rest)) : rest.length < b.length := by
  simp only [parse?, Option.bind_eq_bind, Option.bind_eq_some_iff, Prod.exists, Option.pure_def,
    Option.some.injEq, Prod.mk.injEq] at hp
  obtain ⟨h, n, b₁, h₁, payload, b₂, h₂, checksum, b₃, h₃, s, b₄, h₄, -, rfl⟩ := hp
  have := Header.length_rest_lt h₁
  have := length_rest_le_of_split? h₂
  have := length_rest_le_of_split? h₃
  have := length_rest_le_of_parseSignature? h₄
  omega

end Packet

end Mavlink
