import Mavlink.Payload.Element
import Mavlink.Payload.EnumNames

/-!
# Payloads

Writing a payload turns the values of fields into bytes; fields without a value are zero. A payload
ends after the base fields or, if extension fields are given, after the last of them. Reading a
payload gives the values of all fields that it wholly contains.

A field is written over its slot in a payload of zero bytes, one slot after the other in the order
of the payload, so the first faulty field of that order is the one that is reported.

No access can fail here: what a slot asks for behind the end of a payload is not there. With each
access checked, payloads are written and read in `Checked.encode` and `Checked.decode`.
-/

namespace Mavlink

namespace Layout

/-- The length of the payload that the given fields are written into. -/
def payloadSize (l : Layout) (fields : Fields) : Nat :=
  ((l.extensionSlots.filter fun s => fields.contains s.name).map Slot.stop).max?.getD l.minSize

/-- The slots that a payload of the given length wholly contains. -/
def slotsWithin (l : Layout) (size : Nat) : List Slot :=
  l.slots.takeWhile fun s => s.stop ≤ size

/-- The fields that a payload of this layout contains. Of two fields with one name, the later one
is found. -/
def read (l : Layout) (payload : Bytes) : Fields :=
  NameMap.ofList <| (l.slotsWithin payload.length).map fun s =>
    (s.name, s.shape.read (Bytes.slice s.offset s.size payload))

end Layout

namespace Registry

/-- The bytes of a slot's field with the given value. -/
def writeSlot (r : Registry) (s : Slot) (v : Value) : Except EncodeFault Bytes := do
  let resolved ← EnumNames.resolve r s v
  s.shape.write resolved

/-- Writes the given fields over their slots, one slot after the other. -/
def writeSlots (r : Registry) (fields : Fields) : List Slot → Bytes → Except PayloadError Bytes
  | [], payload => .ok payload
  | s :: rest, payload =>
    match fields.get? s.name with
    | none => writeSlots r fields rest payload
    | some v =>
      match r.writeSlot s v with
      | .error fault => .error (.encode s.name fault)
      | .ok b => writeSlots r fields rest (Bytes.overwrite s.offset b payload)

/-- The payload of a message with the given fields. -/
def encodePayload (r : Registry) (id : UInt32) (fields : Fields) : Except PayloadError Bytes :=
  match r.message? id with
  | none => .error (.unknownMessage id)
  | some l =>
    let size := l.payloadSize fields
    r.writeSlots fields (l.slotsWithin size) (Bytes.zeros size)

/-- The fields of a message's payload. -/
def decodePayload (r : Registry) (id : UInt32) (payload : Bytes) : Except PayloadError Fields :=
  match r.message? id with
  | none => .error (.unknownMessage id)
  | some l =>
    if payload.length < l.minSize then .error (.tooShort l.name l.minSize payload.length)
    else .ok (l.read payload)

section Read

variable {r : Registry} {id : UInt32} {l : Layout} {payload : Bytes}

/-- **Which payloads can be read**: those that have all base fields. -/
theorem decodePayload_eq_ok_iff (hl : r.message? id = some l) {decoded : Fields} :
    r.decodePayload id payload = .ok decoded ↔
      l.minSize ≤ payload.length ∧ decoded = l.read payload := by
  simp only [decodePayload, hl]
  constructor
  · intro h
    split at h
    · cases h
    · next hlen => exact ⟨Nat.le_of_not_lt hlen, (Except.ok.inj h).symm⟩
  · rintro ⟨hlen, rfl⟩
    exact if_neg (Nat.not_lt.mpr hlen)

/-- A payload that cannot be read is too short, and the error says by how much. -/
theorem decodePayload_eq_error_iff (hl : r.message? id = some l) {e : PayloadError} :
    r.decodePayload id payload = .error e ↔
      payload.length < l.minSize ∧ e = .tooShort l.name l.minSize payload.length := by
  simp only [decodePayload, hl]
  constructor
  · intro h
    split at h
    · next hlen => exact ⟨hlen, (Except.error.inj h).symm⟩
    · cases h
  · rintro ⟨hlen, rfl⟩
    exact if_pos hlen

/-- A payload of a known message cannot be read exactly if it is too short. -/
theorem exists_decodePayload_error_iff (hl : r.message? id = some l) :
    (∃ e, r.decodePayload id payload = .error e) ↔ payload.length < l.minSize := by
  constructor
  · rintro ⟨e, he⟩
    exact ((decodePayload_eq_error_iff hl).1 he).1
  · intro hlen
    exact ⟨_, (decodePayload_eq_error_iff hl).2 ⟨hlen, rfl⟩⟩

end Read

end Registry

end Mavlink
