import Mavlink.Proofs.Payload.Canonical

/-!
# What is read can be written

Every value that is read from bytes is one that its type takes: an integer is in range, a number of
the 32-bit format is not too large, a NaN included, and a character has a first byte. What stands in
the way of writing it again is not the type but the names. A payload has no names, but a character
is read as a text, and a text for a character that refers to an enumeration is the name of an entry.
An array that refers to an enumeration may be given by names, so the enumeration is asked for even
if there are none. And of two fields with one name the later one is found, so its value is written
for both.

So, as long as fields of one name have one shape, the fields of a payload of a message that fits can
be written exactly if the enumerations of the arrays among them are registered, and every character
among them that refers to an enumeration happens to be the name of an entry that is a character
again.

## Main results

* `Shape.exists_write_read`: what is read from a field is taken by the field.
* `Registry.exists_writeSlot_read_iff`: what is read from a slot can be written, unless it is no
  name where one is asked for.
* `Layout.Placement.endsAt_lastStop`: a payload ends behind its last given extension field.
* `Registry.encode_decoded`: which payloads can be written after they were read.
-/

namespace Mavlink

namespace WireType

/-- **What is read from a value's bytes can be written.** -/
theorem exists_write_read {t : WireType} {b : Bytes} (hlen : b.length = t.size) :
    ∃ c, t.write (t.read b) = .ok c := by
  by_cases h : t.IsCanonical b
  · exact ⟨b, write_read hlen h⟩
  · cases t with
    | float =>
        have hsmall := Binary64.exceedsNarrow_of_isNaN (eq_true_of_ne_false h)
        rw [read, write, writeFloat]
        simp only [Scalar.toBinary64?]
        rw [if_neg (ne_true_of_eq_false hsmall)]
        exact ⟨_, rfl⟩
    | char => exact ⟨_, rfl⟩
    | _ => exact absurd trivial h

/-- Values can be written one after the other if each of them can be written. -/
theorem exists_writeAll {t : WireType} {items : List Scalar}
    (h : ∀ v ∈ items, ∃ b, t.write v = .ok b) : ∃ b, t.writeAll items = .ok b := by
  induction items with
  | nil => exact ⟨[], rfl⟩
  | cons v rest ih =>
      obtain ⟨front, hfront⟩ := h v List.mem_cons_self
      obtain ⟨back, hback⟩ := ih fun w hw => h w (List.mem_cons_of_mem v hw)
      refine ⟨front ++ back, ?_⟩
      rw [writeAll, hfront, hback]
      rfl

end WireType

namespace Shape

/-- **What is read from a field is taken by the field.** -/
theorem exists_write_read {shape : Shape} {b : Bytes} (hlen : b.length = shape.size) :
    ∃ c, shape.write (shape.read b) = .ok c := by
  cases shape with
  | scalar t => exact WireType.exists_write_read hlen
  | text length => exact ⟨_, rfl⟩
  | array t length =>
      have hroom := hlen.trans (size_array t length)
      have hitems : ∀ v ∈ ((b.pieces t.size (room t length)).map t.read).take (room t length),
          ∃ c, t.write v = .ok c := by
        intro v hv
        obtain ⟨piece, hpiece, rfl⟩ := List.mem_map.1 (List.mem_of_mem_take hv)
        exact WireType.exists_write_read (Bytes.length_of_mem_pieces hroom hpiece)
      obtain ⟨c, hwrite⟩ := WireType.exists_writeAll hitems
      refine ⟨Bytes.fit (array t length).size c, ?_⟩
      rw [read_array hlen, write, writeItems, hwrite]
      rfl

end Shape

/-! ### Names in the way -/

namespace EnumNames

/-- A fault of a value that is an error of an enumeration is no success. -/
theorem lift_eq_ok_iff {α : Type} {x : Except EnumError α} {a : α} :
    lift x = .ok a ↔ x = .ok a := by
  cases x with
  | ok a' => simp [lift]
  | error e => simp [lift]

/-- **A name stands for the value of its entry**, and for nothing else. -/
theorem resolveIn_name_eq_ok_iff {r : Registry} {enumName name : String} {t : WireType}
    {w : Value} :
    resolveIn r enumName (.scalar t) (.scalar (.text name)) = .ok w ↔
      ∃ e n, r.enum? enumName = some e ∧ e.valueOf name = .ok n ∧ w = .scalar (.uint n) := by
  constructor
  · intro h
    obtain ⟨e, he, h⟩ := exists_of_bind_eq_ok h
    obtain ⟨n, hn, h⟩ := exists_of_bind_eq_ok h
    exact ⟨e, n, Registry.findEnum_eq_ok_iff.1 he, lift_eq_ok_iff.1 hn, (Except.ok.inj h).symm⟩
  · rintro ⟨e, n, he, hn, rfl⟩
    simp only [resolveIn, Registry.findEnum_eq_ok_iff.2 he, bind, Except.bind, lift_eq_ok_iff.2 hn]
    rfl

end EnumNames

/-- A number can be written as a character exactly if it is one byte. -/
theorem WireType.exists_writeChar_uint_iff {n : UInt64} :
    (∃ b, writeChar (.uint n) = .ok b) ↔ n ≤ 0xff := by
  simp only [writeChar, Scalar.toUInt64?]
  constructor
  · rintro ⟨b, h⟩
    by_contra hlt
    rw [if_neg hlt] at h
    cases h
  · intro hle
    exact ⟨_, if_pos hle⟩

namespace Registry

variable {r : Registry} {s : Slot}

/-- A value **names a character** of a slot: if the slot is a character that refers to an
enumeration, and the value a text, then this is the name of an entry whose value is one byte. -/
def NamesCharacter (r : Registry) (s : Slot) (v : Value) : Prop :=
  ∀ enumName text, s.shape = .scalar .char → s.field.enumName? = some enumName →
    v = .scalar (.text text) →
      ∃ e n, r.enum? enumName = some e ∧ e.valueOf text = .ok n ∧ n ≤ 0xff

/-- A text for a character that refers to an enumeration is written exactly if it names one. -/
theorem exists_writeSlot_character_iff {enumName text : String} (hshape : s.shape = .scalar .char)
    (henum : s.field.enumName? = some enumName) :
    (∃ c, r.writeSlot s (.scalar (.text text)) = .ok c) ↔
      ∃ e n, r.enum? enumName = some e ∧ e.valueOf text = .ok n ∧ n ≤ 0xff := by
  rw [writeSlot, EnumNames.resolve, henum, hshape]
  constructor
  · rintro ⟨c, h⟩
    obtain ⟨w, hresolve, hwrite⟩ := exists_of_bind_eq_ok h
    obtain ⟨e, n, he, hn, rfl⟩ := EnumNames.resolveIn_name_eq_ok_iff.1 hresolve
    exact ⟨e, n, he, hn, WireType.exists_writeChar_uint_iff.1 ⟨c, hwrite⟩⟩
  · rintro ⟨e, n, he, hn, hle⟩
    obtain ⟨b, hb⟩ := WireType.exists_writeChar_uint_iff.2 hle
    have hresolve := (EnumNames.resolveIn_name_eq_ok_iff (t := .char)).2 ⟨e, n, he, hn, rfl⟩
    refine ⟨b, ?_⟩
    simp only [hresolve]
    exact hb

/-- An array of an enumeration is written only if the enumeration is registered, even if there are
no names among its items. -/
theorem knowsItems_of_writeSlot {vs : List Scalar} {c : Bytes}
    (h : r.writeSlot s (.array vs) = .ok c) : r.KnowsItems s := by
  intro t n enumName hshape henum
  rw [writeSlot, EnumNames.resolve, henum, hshape] at h
  obtain ⟨resolved, hresolve, -⟩ := exists_of_bind_eq_ok h
  obtain ⟨e, he, -⟩ := exists_of_bind_eq_ok hresolve
  exact ⟨e, findEnum_eq_ok_iff.1 he⟩

/-- A registry knows the items of every slot that is no array. -/
theorem knowsItems_of_ne_array (r : Registry) (h : ∀ t n, s.shape ≠ .array t n) : r.KnowsItems s :=
  fun t n _ hshape _ => absurd hshape (h t n)

/-- Where what is read from a slot can be written, the enumeration of its items is known. -/
theorem knowsItems_of_writeSlot_read {b c : Bytes} (h : r.writeSlot s (s.shape.read b) = .ok c) :
    r.KnowsItems s := by
  intro t n enumName hshape henum
  rw [hshape] at h
  exact knowsItems_of_writeSlot h t n enumName hshape henum

/-- **What is read from a slot can be written** unless it is an array of an enumeration that is not
registered, or a text for a character that refers to an enumeration and does not name one. -/
theorem exists_writeSlot_read_iff {b : Bytes} (hshape : s.shape = Shape.ofField s.field)
    (hlen : b.length = s.shape.size) :
    (∃ c, r.writeSlot s (s.shape.read b) = .ok c) ↔
      r.KnowsItems s ∧ r.NamesCharacter s (s.shape.read b) := by
  by_cases hchar : s.shape = .scalar .char → s.field.enumName? = none
  · obtain ⟨c, hwrite⟩ := Shape.exists_write_read hlen
    constructor
    · rintro ⟨c, h⟩
      refine ⟨knowsItems_of_writeSlot_read h, fun enumName text hscalar henum => ?_⟩
      cases henum.symm.trans (hchar hscalar)
    · rintro ⟨hitems, -⟩
      refine ⟨c, ?_⟩
      rw [writeSlot, EnumNames.resolve_read hshape hitems hchar]
      exact hwrite
  · obtain ⟨hscalar, henum⟩ := Classical.not_imp.mp hchar
    have hitems : r.KnowsItems s := r.knowsItems_of_ne_array fun t n harray => by
      cases hscalar.symm.trans harray
    refine Iff.trans ?_ (and_iff_right hitems).symm
    obtain ⟨enumName, henum⟩ := Option.ne_none_iff_exists'.mp henum
    have hread : s.shape.read b = .scalar (.text (Text.ofField b)) := by
      rw [hscalar]
      rfl
    rw [hread, exists_writeSlot_character_iff hscalar henum]
    constructor
    · rintro h enumName' text - henum' htext
      obtain rfl := Option.some.inj (henum.symm.trans henum')
      obtain rfl := Scalar.text.inj (Value.scalar.inj htext)
      exact h
    · intro h
      exact h enumName _ hscalar henum rfl

end Registry

namespace Layout

/-- Where the last given extension field ends, or zero if none is given. -/
def lastStop (l : Layout) (fields : Fields) : Nat :=
  ((l.extensionSlots.filter fun s => fields.contains s.name).getLast?.map Slot.stop).getD 0

/-- **A payload ends** behind the base fields or behind the last given extension field. -/
theorem Placement.endsAt_lastStop {l : Layout} {base extensions : List Field}
    (h : l.Placement base extensions) (fields : Fields) :
    l.EndsAt fields (max l.minSize (l.lastStop fields)) := by
  have hmem : ∀ s, s ∈ (l.extensionSlots.filter fun s => fields.contains s.name) ↔
      s ∈ l.extensionSlots ∧ fields.contains s.name = true := fun s => List.mem_filter
  rw [lastStop]
  cases hlast : (l.extensionSlots.filter fun s => fields.contains s.name).getLast? with
  | none =>
      have hnil := List.getLast?_eq_none_iff.mp hlast
      refine .inr ⟨?_, Nat.max_zero _⟩
      intro s hs
      rw [← Bool.not_eq_true]
      exact List.filter_eq_nil_iff.mp hnil s hs
  | some t =>
      obtain ⟨before, hsplit⟩ := List.getLast?_eq_some_iff.mp hlast
      obtain ⟨ht, hgiven⟩ := (hmem t).1 (hsplit ▸ List.mem_append_right before List.mem_cons_self)
      have hmax : max l.minSize t.stop = t.stop :=
        Nat.max_eq_right (Nat.le_of_lt (h.minSize_lt_stop ht))
      -- The slots end one after the other, so none ends behind the last one.
      have hordered : (before ++ [t]).Pairwise fun s s' => s.stop ≤ s'.offset := by
        rw [← hsplit, h.extensionSlots_eq]
        exact (pairwise_place h.fits_extensions).filter _
      refine .inl ⟨t, ht, hgiven, hmax.symm, ?_⟩
      intro s hs hgiven
      rw [Option.map_some, Option.getD_some, hmax]
      have hs : s ∈ before ++ [t] := hsplit ▸ (hmem s).2 ⟨hs, hgiven⟩
      rcases List.mem_append.1 hs with hs | hs
      · have hle := (List.pairwise_append.1 hordered).2.2 s hs t List.mem_cons_self
        rw [h.extensionSlots_eq] at ht
        exact hle.trans (offset_lt_stop h.fits_extensions ht).le
      · rw [List.mem_singleton.1 hs]

/-- What is found in a payload was read from a slot of that name. -/
theorem exists_slot_of_get?_read {l : Layout} {payload : Bytes} {name : String} {v : Value}
    (h : (l.read payload).get? name = some v) :
    ∃ s ∈ l.slotsWithin payload.length,
      s.name = name ∧ v = s.shape.read (Bytes.slice s.offset s.size payload) := by
  obtain ⟨s, hs, hslot⟩ := List.mem_map.1 (NameMap.mem_of_get?_ofList h)
  obtain ⟨hname, hv⟩ := Prod.mk.inj hslot
  exact ⟨s, hs, hname, hv.symm⟩

end Layout

namespace Registry

open Layout

/-- **Which payloads can be written after they were read**, for a message that fits whose fields of
one name have one shape. The fields that are read from a payload can be written exactly if, among
them, every array that refers to an enumeration refers to one that is registered, and every
character that refers to an enumeration names one of it. What is written ends behind the base fields
or, if there are any, behind the last extension field that was read. -/
theorem encode_decoded {d : Dialect} {r : Registry} (hr : compile d = .ok r) {id : UInt32}
    {l : Layout} (hl : r.message? id = some l) (hfits : l.Fits)
    (hshapes : ∀ s ∈ l.slots, ∀ t ∈ l.slots, s.name = t.name → s.shape = t.shape)
    {payload : Bytes} {decoded : Fields} (hdecode : r.decodePayload id payload = .ok decoded) :
    ((∃ written, r.encodePayload id decoded = .ok written) ↔
      ∀ s ∈ l.slots, ∀ v, decoded.get? s.name = some v →
        r.KnowsItems s ∧ r.NamesCharacter s v) ∧
    ∀ written, r.encodePayload id decoded = .ok written →
      written.length = max l.minSize (l.lastStop decoded) := by
  obtain ⟨base, extensions, hplace⟩ := placement_of_message? hr hl hfits
  obtain ⟨-, rfl⟩ := (decodePayload_eq_ok_iff hl).1 hdecode
  have hslot : ∀ s ∈ l.slots, ∀ v, (l.read payload).get? s.name = some v →
      ((∃ b, r.writeSlot s v = .ok b) ↔ r.KnowsItems s ∧ r.NamesCharacter s v) := by
    intro s hs v hv
    obtain ⟨t, ht, hname, rfl⟩ := exists_slot_of_get?_read hv
    obtain ⟨ht, hstop⟩ := hplace.mem_slotsWithin_iff.1 ht
    have hshape := hshapes t ht s hs hname
    have hlen : (Bytes.slice t.offset t.size payload).length = s.shape.size := by
      rw [hplace.length_slice ht hstop, hplace.size_eq ht, hshape]
    rw [hshape]
    exact exists_writeSlot_read_iff (hplace.shape_eq hs) hlen
  refine ⟨⟨?_, ?_⟩, ?_⟩
  · rintro ⟨written, hencode⟩ s hs v hv
    obtain ⟨hends, hwritten⟩ := (encodePayload_eq_ok_iff hr hl hfits).1 hencode
    have hstop := hplace.stop_le_of_endsAt hends hs (NameMap.contains_of_get? hv)
    have hslice := hwritten s hs hstop
    rw [Written, hv] at hslice
    exact (hslot s hs v hv).1 ⟨_, hslice.1⟩
  · intro hnames
    refine exists_encodePayload hr hl hfits ?_
    intro s hs
    cases hv : (l.read payload).get? s.name with
    | none => exact ⟨_, written_of_get?_none hv⟩
    | some v =>
        obtain ⟨b, hb⟩ := (hslot s hs v hv).2 (hnames s hs v hv)
        exact ⟨b, written_of_get? hv hb ((length_of_writeSlot hb).trans (hplace.size_eq hs).symm)⟩
  · intro written hencode
    obtain ⟨hends, -⟩ := (encodePayload_eq_ok_iff hr hl hfits).1 hencode
    exact hends.unique (hplace.endsAt_lastStop _)

end Registry

namespace Sample

/-- A dialect of one message. -/
def marks (fields : List FieldDeclaration) (enums : List Enumeration) : Dialect where
  name := "marks"
  messages := [{ id := 1, name := "MARK", fields }]
  enums := enums

/-- A grade is a character, and one of its names is the character itself. -/
def grades : Enumeration :=
  enumeration "GRADE" [("A", 65), ("GRADE_B", 66)]

/-- A grade, and two steps that may be given by grades. -/
def gradeDialect : Dialect :=
  marks [enumField "char" "grade" "GRADE", enumField "uint8_t[2]" "steps" "GRADE"] [grades]

/-- The layout of a grade and its steps. -/
def gradeLayout : Layout where
  id := 1
  name := "MARK"
  slots := Layout.place 0 [
    { index := 0, wireType := .char, name := "grade", enumName? := some "GRADE",
      arrayLength := 0, isExtension := false },
    { index := 1, wireType := .uint8, name := "steps", enumName? := some "GRADE",
      arrayLength := 2, isExtension := false }]
  crcExtra := 18
  maxSize := 3
  minSize := 3

/-- The compiled dialect. -/
def gradeRegistry : Registry :=
  ⟨"marks", [gradeLayout], [grades]⟩

/-- The dialect of a grade and its steps compiles. -/
theorem compile_gradeDialect : Registry.compile gradeDialect = .ok gradeRegistry := by
  have hsome : (Registry.compile gradeDialect).toOption = some gradeRegistry := by decide +kernel
  cases hr : Registry.compile gradeDialect with
  | ok r =>
      rw [hr] at hsome
      exact congrArg Except.ok (Option.some.inj hsome)
  | error e =>
      rw [hr] at hsome
      cases hsome

/-- Why the fields that are read from a payload of a dialect's message cannot be written. -/
def reencodingError? (d : Dialect) (payload : Bytes) : Option PayloadError :=
  match Registry.compile d with
  | .error _ => none
  | .ok r =>
    match r.decodePayload 1 payload with
    | .error _ => none
    | .ok decoded =>
      match r.encodePayload 1 decoded with
      | .error e => some e
      | .ok _ => none

end Sample

namespace Registry

/-- A grade that is the name of its entry is written after it was read. -/
theorem encode_decoded_grade :
    ∃ decoded written, Sample.gradeRegistry.decodePayload 1 [65, 1, 2] = .ok decoded ∧
      Sample.gradeRegistry.encodePayload 1 decoded = .ok written ∧ written.length = 3 := by
  have hl : Sample.gradeRegistry.message? 1 = some Sample.gradeLayout := by decide +kernel
  have hdecode : Sample.gradeRegistry.decodePayload 1 [65, 1, 2] = .ok _ :=
    (decodePayload_eq_ok_iff hl).2 ⟨by decide, rfl⟩
  have henum : Sample.gradeRegistry.enum? "GRADE" = some Sample.grades := by decide
  obtain ⟨hiff, hlength⟩ :=
    encode_decoded Sample.compile_gradeDialect hl (by decide) (by decide) hdecode
  have hnames : ∀ s ∈ Sample.gradeLayout.slots, ∀ v,
      (Sample.gradeLayout.read [65, 1, 2]).get? s.name = some v →
        Sample.gradeRegistry.KnowsItems s ∧ Sample.gradeRegistry.NamesCharacter s v := by
    intro s hs v hv
    simp only [Sample.gradeLayout, Layout.place, List.mem_cons, List.not_mem_nil, or_false] at hs
    rcases hs with rfl | rfl
    · have hread : (Sample.gradeLayout.read [65, 1, 2]).get? "grade" =
          some (.scalar (.text "A")) := by decide +kernel
      obtain rfl := Option.some.inj (hread.symm.trans hv)
      refine ⟨knowsItems_of_ne_array _ (fun t n harray => by cases harray), ?_⟩
      intro enumName text hshape hname htext
      cases htext
      cases hname
      exact ⟨_, 65, henum, rfl, by decide⟩
    · constructor
      · intro t n enumName hshape hname
        cases hname
        exact ⟨_, henum⟩
      · intro enumName text hshape
        cases hshape
  obtain ⟨written, hencode⟩ := hiff.2 hnames
  exact ⟨_, written, hdecode, hencode, hlength written hencode⟩

/-- Not everything that is read can be written. A grade that is not the name of its entry cannot,
nor can numbers of an enumeration that is not registered, nor can a character that is found in the
place of a number with the same name. -/
theorem not_encode_decoded :
    Sample.reencodingError? Sample.gradeDialect [66, 1, 2] =
        some (.encode "grade" (.enumeration (.unknownEntry "GRADE" "B"))) ∧
      Sample.reencodingError? (Sample.marks [Sample.enumField "uint8_t[2]" "steps" "GRADE"] [])
          [65, 66] =
        some (.encode "steps" (.unknownEnum "GRADE")) ∧
      Sample.reencodingError?
          (Sample.marks [Sample.field "uint8_t" "grade", Sample.field "char" "grade"] []) [65, 66] =
        some (.encode "grade" (.typeMismatch .integer .text)) := by
  decide +kernel

end Registry

end Mavlink
