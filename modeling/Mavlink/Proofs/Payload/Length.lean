import Mavlink.Proofs.Payload.RoundTrip

/-!
# The length of a payload

Whatever values are given, a field that is written at all is written with exactly the bytes of its
slot, so writing over a slot leaves the length of the payload alone. A payload that is written is
therefore as long as it was made in the beginning, and that length lies between those of the base
fields and of all fields.

## Main results

* `Shape.length_of_write`: a written field has the length of its shape.
* `Registry.exists_encodePayload`: a payload can be written if every slot can.
* `Registry.endsAt_of_encodePayload`: a written payload ends where the last given extension field
  does, and its length is one that the message can have.
-/

namespace Mavlink

namespace Bytes

/-- Writing over bytes within a string leaves its length alone. -/
theorem length_overwrite {offset : Nat} {new b : Bytes} (h : offset + new.length ≤ b.length) :
    (overwrite offset new b).length = b.length := by
  rw [overwrite, List.length_append, List.length_append, List.length_take, List.length_drop]
  omega

end Bytes

namespace WireType

/-- A written integer has the length of its type. -/
theorem length_of_writeInteger {t : WireType} {v : Scalar} {b : Bytes}
    (h : t.writeInteger v = .ok b) : b.length = t.size := by
  rw [writeInteger] at h
  split at h
  · contradiction
  · dsimp only at h
    split at h
    · obtain rfl := Except.ok.inj h
      exact Bytes.length_littleEndian _ _
    · contradiction

/-- A number of 32 bits is written as four bytes. -/
theorem length_of_writeFloat {v : Scalar} {b : Bytes} (h : writeFloat v = .ok b) :
    b.length = 4 := by
  rw [writeFloat] at h
  split at h
  · contradiction
  · split at h
    · contradiction
    · obtain rfl := Except.ok.inj h
      exact Bytes.length_littleEndian _ _

/-- A number of 64 bits is written as eight bytes. -/
theorem length_of_writeDouble {v : Scalar} {b : Bytes} (h : writeDouble v = .ok b) :
    b.length = 8 := by
  rw [writeDouble] at h
  split at h
  · contradiction
  · obtain rfl := Except.ok.inj h
    exact Bytes.length_littleEndian _ _

/-- A character is written as one byte. -/
theorem length_of_writeChar {v : Scalar} {b : Bytes} (h : writeChar v = .ok b) :
    b.length = 1 := by
  cases v with
  | text s | bytes s =>
      obtain rfl := Except.ok.inj h
      rfl
  | uint n | int n =>
      simp only [writeChar] at h
      split at h
      · split at h
        · obtain rfl := Except.ok.inj h
          rfl
        · contradiction
      · contradiction
  | float x => contradiction

/-- **A written value has the length of its type.** -/
theorem length_of_write {t : WireType} {v : Scalar} {b : Bytes} (h : t.write v = .ok b) :
    b.length = t.size := by
  cases t with
  | float => exact length_of_writeFloat h
  | double => exact length_of_writeDouble h
  | char => exact length_of_writeChar h
  | _ => exact length_of_writeInteger h

/-- Values written one after the other have the length of their types together. -/
theorem length_of_writeAll {t : WireType} {items : List Scalar} {b : Bytes}
    (h : t.writeAll items = .ok b) : b.length = t.size * items.length := by
  induction items generalizing b with
  | nil =>
      obtain rfl := Except.ok.inj h
      rfl
  | cons v items ih =>
      obtain ⟨front, hfront, h⟩ := exists_of_bind_eq_ok h
      obtain ⟨back, hback, h⟩ := exists_of_bind_eq_ok h
      obtain rfl := Except.ok.inj h
      rw [List.length_append, length_of_write hfront, ih hback, List.length_cons, Nat.mul_succ,
        Nat.add_comm]

end WireType

namespace Shape

/-- A written array has the length of its shape. -/
theorem length_of_writeItems {t : WireType} {length : Nat} {items : List Scalar} {b : Bytes}
    (h : writeItems t length items = .ok b) : b.length = (array t length).size := by
  obtain ⟨all, -, h⟩ := exists_of_bind_eq_ok h
  obtain rfl := Except.ok.inj h
  exact Bytes.length_fit _ _

/-- A written text has the length of its field. -/
theorem length_of_writeText {length : Nat} {v : Scalar} {b : Bytes}
    (h : writeText length v = .ok b) : b.length = length := by
  cases v with
  | text s | bytes s =>
      obtain rfl := Except.ok.inj h
      exact Bytes.length_fit _ _
  | uint n | int n | float x => contradiction

/-- **A written field has the length of its shape.** -/
theorem length_of_write {shape : Shape} {v : Value} {b : Bytes} (h : shape.write v = .ok b) :
    b.length = shape.size := by
  cases shape with
  | scalar t =>
      cases v with
      | scalar x => exact WireType.length_of_write h
      | array items => contradiction
  | text length =>
      cases v with
      | scalar x => exact length_of_writeText h
      | array items => contradiction
  | array t length =>
      cases v with
      | array items => exact length_of_writeItems h
      | scalar x =>
          cases x with
          | bytes s =>
              rw [write] at h
              split at h
              · exact length_of_writeItems h
              · contradiction
          | uint n | int n | float y | text s => contradiction

end Shape

namespace Registry

open Layout

/-- A written slot has the length of its shape. -/
theorem length_of_writeSlot {r : Registry} {s : Slot} {v : Value} {b : Bytes}
    (h : r.writeSlot s v = .ok b) : b.length = s.shape.size := by
  obtain ⟨resolved, -, h⟩ := exists_of_bind_eq_ok h
  exact Shape.length_of_write h

/-- Writing over one slot leaves the length of a payload alone, if the slot lies within it. -/
theorem length_overwrite_slot {r : Registry} {s : Slot} {v : Value} {b payload : Bytes}
    (h : r.writeSlot s v = .ok b) (hsize : s.size = s.shape.size)
    (hstop : s.offset + s.size ≤ payload.length) :
    (Bytes.overwrite s.offset b payload).length = payload.length := by
  refine Bytes.length_overwrite ?_
  rw [length_of_writeSlot h, ← hsize]
  exact hstop

/-- **Writing over slots leaves the length of a payload alone**, if the slots lie within it. -/
theorem length_of_writeSlots {r : Registry} {fields : Fields} {slots : List Slot}
    {payload written : Bytes}
    (hslots : ∀ s ∈ slots, s.size = s.shape.size ∧ s.offset + s.size ≤ payload.length)
    (h : r.writeSlots fields slots payload = .ok written) : written.length = payload.length := by
  -- The payload changes from slot to slot, but its length does not: this carries the bound along.
  induction slots generalizing payload with
  | nil =>
      obtain rfl := Except.ok.inj h
      rfl
  | cons s rest ih =>
      have hrest := fun t ht => hslots t (List.mem_cons_of_mem s ht)
      rw [writeSlots] at h
      split at h
      · exact ih hrest h
      · split at h
        · contradiction
        · next b hb =>
          obtain ⟨hsize, hstop⟩ := hslots s List.mem_cons_self
          have hlength := length_overwrite_slot hb hsize hstop
          rw [← hlength] at hrest ⊢
          exact ih hrest h

/-- **A payload can be written** if each of its message's slots can. -/
theorem exists_encodePayload {d : Dialect} {r : Registry} (hr : compile d = .ok r) {id : UInt32}
    {l : Layout} (hl : r.message? id = some l) (hfits : l.Fits) {fields : Fields}
    (h : ∀ s ∈ l.slots, ∃ b, r.Written fields s b) :
    ∃ payload, r.encodePayload id fields = .ok payload := by
  obtain ⟨front, rest, hslots, hfront, -, hencode⟩ :=
    exists_encodePayload_eq_writeSlots hr hl hfits fields
  have hwritten : ∀ s ∈ place 0 front, ∃ b, r.Written fields s b := by
    intro s hs
    exact h s ((mem_place_front_iff hslots hfront).1 hs).1
  obtain ⟨payload, hwrite, -, -⟩ := exists_writeSlots [] hfront.left hwritten
  exact ⟨payload, hencode.trans hwrite⟩

/-- Payloads are written for known messages only. -/
theorem exists_message_of_encodePayload {r : Registry} {id : UInt32} {fields : Fields}
    {payload : Bytes} (h : r.encodePayload id fields = .ok payload) :
    ∃ l, r.message? id = some l := by
  rw [encodePayload] at h
  cases hl : r.message? id with
  | none =>
      rw [hl] at h
      cases h
  | some l => exact ⟨l, rfl⟩

/-- **A written payload** of a message that fits ends where the last given extension field does; it
has room for all base fields and is not longer than all fields together. -/
theorem endsAt_of_encodePayload {d : Dialect} {r : Registry} (hr : compile d = .ok r) {id : UInt32}
    {l : Layout} (hl : r.message? id = some l) (hfits : l.Fits) {fields : Fields} {payload : Bytes}
    (h : r.encodePayload id fields = .ok payload) :
    l.EndsAt fields payload.length ∧ l.minSize ≤ payload.length ∧ payload.length ≤ l.maxSize ∧
      l.maxSize ≤ maxPayloadSize := by
  obtain ⟨declared, -, hcompile⟩ := exists_declaration_of_message? hr hl
  obtain ⟨base, extensions, hplace⟩ := placement_of_compile hcompile hfits
  obtain ⟨front, rest, hslots, hfront, hends, hencode⟩ :=
    exists_encodePayload_eq_writeSlots hr hl hfits fields
  have hlen : payload.length = exactSize front := by
    rw [hencode] at h
    refine (length_of_writeSlots ?_ h).trans (Bytes.length_zeros _)
    intro s hs
    rw [Bytes.length_zeros]
    refine ⟨size_of_mem_place hs, ?_⟩
    rw [← stop_of_mem_place hfront.left hs]
    exact ((mem_place_front_iff hslots hfront).1 hs).2
  rw [← hlen] at hends
  refine ⟨hends, hplace.minSize_le_of_endsAt hends, ?_, maxSize_le hcompile⟩
  rcases hends with ⟨s, hs, -, hstop, -⟩ | ⟨-, hbase⟩
  · rw [← hstop]
    exact hplace.stop_le_maxSize (List.mem_of_mem_filter hs)
  · rw [hbase]
    exact hplace.minSize_le_maxSize

end Registry

end Mavlink
