import Mavlink.Proofs.Payload.Concatenation
import Mavlink.Proofs.Payload.Prefix

/-!
# Canonical payloads are written as they are read

Reading forgets how a value was written: a byte string that is not UTF-8 becomes a text with
replacements, the bytes behind the end of a text are skipped, and a NaN becomes quiet. Bytes are
*canonical* if nothing of them is forgotten, and then the value that is read from them is written
with these bytes. This goes up from the values of a type, over the pieces of an array, to fields in
their slots.

A whole payload is canonical if its slots are and it ends with a field. It is then as long as the
fields that are read from it ask for, which is what makes writing end at the same position.

## Main results

* `WireType.write_read`, `Shape.write_read`: canonical bytes are what their value is written with.
* `Layout.Placement.endsAt_read`: a payload that ends with a field ends where its fields say.
* `Registry.decode_then_encode`: canonical payloads are written as they are read.
-/

namespace Mavlink

namespace WireType

/-- Whether the bytes of a value are **canonical**: a number of the 32-bit format is no NaN, and a
character is an ASCII character. -/
def IsCanonical (t : WireType) (b : Bytes) : Prop :=
  match t with
  | float => (Binary64.widen ⟨UInt32.ofNat (Bytes.fromLittleEndian b)⟩).isNaN = false
  | char => ∀ x ∈ b, x < 0x80
  | _ => True

/-- Any bytes of an integer are what it is written with. -/
theorem write_read_integer {t : WireType} (ht : t.isInteger = true) {b : Bytes}
    (hlen : b.length = t.size) : t.write (t.read b) = .ok b := by
  have hlt : Bytes.fromLittleEndian b < Bytes.count t.size := hlen ▸ Bytes.fromLittleEndian_lt b
  have hrange := inRange_integerOfRaw hlt
  rw [write_of_isInteger ht, writeInteger_of_inRange (number?_read ht hlen) hrange,
    rawOfInteger_integerOfRaw hlt, ← hlen, Bytes.littleEndian_fromLittleEndian]

/-- **Canonical bytes are what their value is written with.** -/
theorem write_read {t : WireType} {b : Bytes} (hlen : b.length = t.size) (h : t.IsCanonical b) :
    t.write (t.read b) = .ok b := by
  have hlt : Bytes.fromLittleEndian b < Bytes.count t.size := hlen ▸ Bytes.fromLittleEndian_lt b
  have hback := Bytes.littleEndian_fromLittleEndian b
  rw [hlen] at hback
  cases t with
  | float =>
      rw [read, write_float h, UInt32.toNat_ofNat_of_lt' hlt]
      exact congrArg Except.ok hback
  | double =>
      rw [read, write, writeDouble]
      simp only [Scalar.toBinary64?]
      rw [UInt64.toNat_ofNat_of_lt' hlt]
      exact congrArg Except.ok hback
  | char =>
      obtain ⟨x, rfl⟩ := List.length_eq_one_iff.mp hlen
      have hfield := Text.isField_singleton (h x List.mem_cons_self)
      have hshort : (Text.bytes (Text.ofField [x])).length ≤ 1 := by
        rw [Text.ofField, Text.bytes_ofBytes hfield.isUtf8]
        exact (List.takeWhile_prefix _).length_le
      refine congrArg Except.ok ?_
      rw [← fit_one hshort]
      exact Text.fit_bytes_ofField hfield
  | _ => exact write_read_integer rfl hlen

/-- Values are written as the pieces that each of them is written with, one after the other. -/
theorem writeAll_eq_flatten {t : WireType} {items : List Scalar} {blocks : List Bytes}
    (h : List.Forall₂ (fun v b => t.write v = .ok b) items blocks) :
    t.writeAll items = .ok blocks.flatten := by
  induction h with
  | nil => rfl
  | cons hwrite _ ih =>
      rw [writeAll, hwrite, ih]
      rfl

/-- Only the character type reads texts. -/
theorem eq_char_of_read_eq_text {t : WireType} {b : Bytes} {s : String} (h : t.read b = .text s) :
    t = .char := by
  cases t with
  | char => rfl
  | _ => cases h

end WireType

namespace Shape

/-- Whether the bytes of a field are **canonical**: each value is, and a text is UTF-8 up to the
first zero byte, with nothing but zeros from there on. -/
def IsCanonical (shape : Shape) (b : Bytes) : Prop :=
  match shape with
  | scalar t => t.IsCanonical b
  | array t _ => ∀ piece ∈ b.wholePieces t.size, t.IsCanonical piece
  | text _ => Text.IsField b

/-- The canonical bytes of an array are what its elements are written with. -/
theorem write_read_array {t : WireType} {length : Nat} {b : Bytes}
    (hlen : b.length = (array t length).size) (h : (array t length).IsCanonical b) :
    (array t length).write ((array t length).read b) = .ok b := by
  have hroom := hlen.trans (size_array t length)
  rw [IsCanonical, Bytes.wholePieces_eq t.size_pos hroom] at h
  have hblocks : List.Forall₂ (fun v piece => t.write v = .ok piece)
      ((Bytes.pieces t.size (room t length) b).map t.read)
      (Bytes.pieces t.size (room t length) b) := by
    rw [List.forall₂_map_left_iff, List.forall₂_same]
    intro piece hpiece
    exact WireType.write_read (Bytes.length_of_mem_pieces hroom hpiece) (h piece hpiece)
  have hcount : ((Bytes.pieces t.size (room t length) b).map t.read).length = room t length := by
    rw [List.length_map, Bytes.length_pieces]
  rw [read_array hlen, write, writeItems, List.take_of_length_le hcount.le,
    WireType.writeAll_eq_flatten hblocks, Bytes.flatten_pieces, List.take_of_length_le hroom.le]
  exact congrArg Except.ok (Bytes.fit_of_length_eq hlen)

/-- **Canonical bytes are what their field is written with.** -/
theorem write_read {shape : Shape} {b : Bytes} (hlen : b.length = shape.size)
    (h : shape.IsCanonical b) : shape.write (shape.read b) = .ok b := by
  cases shape with
  | scalar t => exact WireType.write_read hlen h
  | array t length => exact write_read_array hlen h
  | text length =>
      obtain rfl : b.length = length := hlen
      exact congrArg Except.ok (Text.fit_bytes_ofField h)

/-- An array of characters is a text. -/
theorem ne_char_of_ofField_eq_array {f : Field} {t : WireType} {n : Nat}
    (h : ofField f = .array t n) : t ≠ .char := by
  rw [ofField] at h
  split at h
  · cases h
  · split at h
    · cases h
    · next hchar =>
      obtain ⟨rfl, -⟩ := Shape.array.inj h
      exact hchar

end Shape

/-! ### What enumerations leave alone -/

/-- An enumeration is found without a fault if it is registered. -/
theorem Registry.findEnum_eq_ok_iff {r : Registry} {enumName : String} {e : Enumeration} :
    r.findEnum enumName = .ok e ↔ r.enum? enumName = some e := by
  rw [findEnum]
  cases r.enum? enumName with
  | none => simp
  | some e' => simp

/-- A registry **knows the items** of a slot, unless the slot is an array that refers to an
enumeration that is not registered. -/
def Registry.KnowsItems (r : Registry) (s : Slot) : Prop :=
  ∀ t n enumName, s.shape = .array t n → s.field.enumName? = some enumName →
    ∃ e, r.enum? enumName = some e

/-- Where values stand for themselves, no enumeration has to be known. -/
theorem Slot.StandsForItself.knowsItems {s : Slot} (hs : s.StandsForItself) (r : Registry) :
    r.KnowsItems s := by
  intro t n enumName hshape henum
  cases henum.symm.trans (hs (congrArg Shape.replacesTexts hshape))

namespace EnumNames

/-- Items that are no names stand for themselves. -/
theorem items_eq_self (e : Enumeration) {vs : List Scalar}
    (h : ∀ v ∈ vs, ∀ name, v ≠ .text name) : items e vs = .ok vs := by
  induction vs with
  | nil => rfl
  | cons v rest ih =>
      have hitem : item e v = .ok v := by
        cases v with
        | text name => exact absurd rfl (h _ List.mem_cons_self name)
        | _ => rfl
      rw [items, hitem, ih fun w hw => h w (List.mem_cons_of_mem v hw)]
      rfl

/-- **What is read is not changed by an enumeration**, unless it is a character. -/
theorem resolve_read {r : Registry} {s : Slot} (hshape : s.shape = Shape.ofField s.field)
    (hitems : r.KnowsItems s) (hchar : s.shape = .scalar .char → s.field.enumName? = none)
    (b : Bytes) : resolve r s (s.shape.read b) = .ok (s.shape.read b) := by
  rw [resolve]
  split
  · rfl
  · next enumName henum =>
    cases hs : s.shape with
    | array t n =>
        obtain ⟨e, he⟩ := hitems t n enumName hs henum
        have hread : ∀ v ∈ (b.wholePieces t.size).map t.read, ∀ name, v ≠ .text name := by
          intro v hv name hname
          obtain ⟨piece, -, hpiece⟩ := List.mem_map.1 hv
          exact Shape.ne_char_of_ofField_eq_array (hshape.symm.trans hs)
            (WireType.eq_char_of_read_eq_text (hpiece.trans hname))
        simp only [Shape.read, resolveIn, Registry.findEnum_eq_ok_iff.2 he, bind, Except.bind,
          items_eq_self e hread]
        rfl
    | text n => exact resolveIn_text r enumName n _
    | scalar t =>
        refine resolveIn_scalar r enumName t ?_
        intro name hname
        obtain rfl := WireType.eq_char_of_read_eq_text hname
        cases henum.symm.trans (hchar hs)

end EnumNames

namespace Layout

/-- A payload **ends with a field** if it ends behind the base fields or with an extension field. -/
def EndsWithField (l : Layout) (n : Nat) : Prop :=
  n = l.minSize ∨ ∃ s ∈ l.extensionSlots, s.stop = n

section Placement

variable {l : Layout} {base extensions : List Field}

/-- Such a payload has all base fields. -/
theorem Placement.minSize_le_of_endsWithField (h : l.Placement base extensions) {n : Nat}
    (hn : l.EndsWithField n) : l.minSize ≤ n := by
  rcases hn with rfl | ⟨s, hs, rfl⟩
  · exact Nat.le_refl _
  · exact Nat.le_of_lt (h.minSize_lt_stop hs)

/-- **A payload that ends with a field** ends where the fields that are read from it say, if no two
fields have the same name. -/
theorem Placement.endsAt_read (h : l.Placement base extensions)
    (hnames : (l.slots.map Slot.name).Nodup) {payload : Bytes}
    (hend : l.EndsWithField payload.length) : l.EndsAt (l.read payload) payload.length := by
  have hread : ∀ s ∈ l.extensionSlots, (l.read payload).contains s.name = true ↔
      s.stop ≤ payload.length := fun s hs =>
    h.contains_read_iff_stop_le hnames payload (List.mem_of_mem_filter hs)
  rcases hend with hmin | ⟨s, hs, hstop⟩
  · refine .inr ⟨?_, hmin⟩
    intro s hs
    have hlt := h.minSize_lt_stop hs
    refine eq_false_of_ne_true fun hgiven => ?_
    have hle := (hread s hs).1 hgiven
    omega
  · exact .inl ⟨s, hs, (hread s hs).2 hstop.le, hstop, fun t ht => (hread t ht).1⟩

end Placement

end Layout

namespace Registry

open Layout

variable {d : Dialect} {r : Registry} {id : UInt32} {l : Layout} {payload : Bytes}

/-- **Canonical payloads are written as they are read**, for a message that fits. No two fields have
the same name, and none is an array or a character that refers to an enumeration. If a payload ends
with a field and its bytes are canonical, it can be read, and the fields that are read from it are
written as this very payload. -/
theorem decode_then_encode (hr : compile d = .ok r) (hl : r.message? id = some l) (hfits : l.Fits)
    (hnames : (l.slots.map Slot.name).Nodup) (hself : ∀ s ∈ l.slots, s.StandsForItself)
    (hend : l.EndsWithField payload.length)
    (hcanonical : ∀ s ∈ l.slots, s.stop ≤ payload.length →
      s.shape.IsCanonical (Bytes.slice s.offset s.size payload)) :
    ∃ decoded, r.decodePayload id payload = .ok decoded ∧
      r.encodePayload id decoded = .ok payload := by
  obtain ⟨base, extensions, hplace⟩ := placement_of_message? hr hl hfits
  have hmin := hplace.minSize_le_of_endsWithField hend
  refine ⟨l.read payload, (decodePayload_eq_ok_iff hl).2 ⟨hmin, rfl⟩, ?_⟩
  refine (encodePayload_eq_ok_iff hr hl hfits).2 ⟨hplace.endsAt_read hnames hend, ?_⟩
  intro s hs hstop
  have hlen := hplace.length_slice hs hstop
  have hread := get?_read hnames (hplace.mem_slotsWithin_iff.2 ⟨hs, hstop⟩)
  refine written_of_get? hread ?_ hlen
  have hchar : s.shape = .scalar .char → s.field.enumName? = none := fun hscalar =>
    hself s hs (congrArg Shape.replacesTexts hscalar)
  rw [writeSlot, EnumNames.resolve_read (hplace.shape_eq hs) ((hself s hs).knowsItems r) hchar]
  exact Shape.write_read (hlen.trans (hplace.size_eq hs)) (hcanonical s hs hstop)

end Registry

/-- A text for the operator with both extension fields is written as it is read. -/
theorem Registry.decode_then_encode_statusText :
    ∃ decoded,
      Sample.registry.decodePayload 253 (Sample.statusTextBytes ++ [1, 0, 2]) = .ok decoded ∧
      Sample.registry.encodePayload 253 decoded = .ok (Sample.statusTextBytes ++ [1, 0, 2]) := by
  refine decode_then_encode Sample.compile_dialect Sample.message?_statusText
    Sample.fits_statusText (by decide) (by decide)
    (.inr ⟨Sample.statusTextLayout.slots[3], by decide, by decide⟩) ?_
  intro s hs hstop
  simp only [Sample.statusTextLayout, Layout.place, List.mem_cons, List.not_mem_nil,
    or_false] at hs
  rcases hs with rfl | rfl | rfl | rfl
  · trivial
  · have htext : Text.IsField (Bytes.fit 50 (Text.bytes "Höhe")) :=
      Text.isField_fit_bytes ⟨by decide, by decide⟩
    exact htext
  · trivial
  · trivial

/-- A payload of a message that does not fit ends with its base fields, but none of them is read,
and so it is not written again. -/
theorem Registry.decode_then_encode_wrapped :
    compile { name := "wrapped", messages := [Sample.wrappedBase], enums := [] } =
        .ok (Sample.registryOf Sample.wrappedBase) ∧
      ((Sample.registryOf Sample.wrappedBase).message? 1).map Layout.minSize = some 10 ∧
      (((Sample.registryOf Sample.wrappedBase).decodePayload 1
        (0x78 :: Bytes.zeros 9)).toOption.map fun decoded =>
          (Sample.registryOf Sample.wrappedBase).encodePayload 1 decoded) =
            some (.ok (Bytes.zeros 10)) ∧
      Bytes.zeros 10 ≠ 0x78 :: Bytes.zeros 9 := by
  refine ⟨(Sample.compile_wrapped _ (by decide)).1, ?_⟩
  decide +kernel

end Mavlink
