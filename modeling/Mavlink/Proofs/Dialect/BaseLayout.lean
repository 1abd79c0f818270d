import Mavlink.Proofs.Dialect.Compilation

/-!
# What the base layout depends on

Two revisions of a message understand each other as long as they agree on the extra byte and on
where the base fields are. Both follow from the base fields of each width: fields of one width keep
the order of declaration, and in the payload they stand together. So it does not matter how fields
of different widths are mixed in the declaration, and which extension fields there are, and where.

## Conventions

A field is *bare* without its place among the declared fields. Nothing that compilation computes of
a base field needs more than the bare field.

## Main results

* `Layout.map_base_baseOrder`: the base fields in the order of the payload, from the declaration.
* `Layout.crcExtra_of_compile`, `Layout.minSize_of_compile`, `Layout.map_onWire_baseSlots`: what is
  compiled of the base fields, as a function of the bare fields.
* `Layout.base_layout_congr`: declarations with the same base fields of each width have the same
  extra byte and the same base layout.
-/

namespace Mavlink

/-- A base field with its type resolved, wherever it is declared. -/
structure BaseField where
  wireType : WireType
  name : String
  arrayLength : Nat
  enumName? : Option String
  deriving DecidableEq, Repr

/-- The base field that is declared: none if the field is an extension field, or if its type does
not resolve. -/
def FieldDeclaration.baseField? (d : FieldDeclaration) : Option BaseField :=
  if d.isExtension then none
  else
    match TypeName.resolve d.typeName d.arrayLength with
    | .ok (wireType, arrayLength) =>
      some { wireType, name := d.name, arrayLength, enumName? := d.enumName? }
    | .error _ => none

/-- The declared base fields whose elements have the given width, in the order of declaration. -/
def MessageDeclaration.baseFieldsOfWidth (d : MessageDeclaration) (width : Nat) :
    List BaseField :=
  (d.fields.filterMap FieldDeclaration.baseField?).filter fun b => b.wireType.size = width

namespace Field

/-- The field without its place among the declared fields. -/
def base (f : Field) : BaseField where
  wireType := f.wireType
  name := f.name
  arrayLength := f.arrayLength
  enumName? := f.enumName?

/-- A declared field gives its base field, unless it is an extension field. -/
theorem Resolves.baseField?_eq {f : Field} {d : FieldDeclaration} (h : f.Resolves d) :
    d.baseField? = if f.isExtension then none else some f.base := by
  rw [FieldDeclaration.baseField?, h.type_eq, ← h.isExtension_eq, ← h.name_eq, ← h.enumName_eq]
  rfl

end Field

/-- The base field as the first field of a message. -/
def BaseField.bare (b : BaseField) : Field where
  index := 0
  wireType := b.wireType
  name := b.name
  enumName? := b.enumName?
  arrayLength := b.arrayLength
  isExtension := false

/-- What a slot is to a peer: the name of its field, how its bytes are read, and where they are. -/
def Slot.onWire (s : Slot) : String × Shape × Nat × Nat :=
  (s.name, s.shape, s.offset, s.size)

namespace Layout

/-! ### From the declaration to the order of the payload -/

/-- The base fields of a declaration are the base fields of its resolved fields. -/
theorem filterMap_baseField? {message : String} {index : Nat}
    {declared : List FieldDeclaration} {fields : List Field}
    (h : resolveFields message index declared = .ok fields) :
    declared.filterMap FieldDeclaration.baseField? =
      (fields.filter fun f => !f.isExtension).map Field.base := by
  induction declared generalizing index fields with
  | nil =>
      obtain rfl := Except.ok.inj h
      rfl
  | cons d rest ih =>
      obtain ⟨f, fs, hf, hfs, rfl⟩ := resolveFields_cons_eq_ok_iff.1 h
      have hd := (resolves_of_resolveField hf).2.baseField?_eq
      rw [List.filterMap_cons, hd, ih hfs, List.filter_cons]
      cases f.isExtension <;> rfl

/-- Ordering by width does not look at where a field is declared. -/
theorem map_base_wireOrder (fields : List Field) :
    (wireOrder fields).map Field.base = widths.flatMap fun width =>
      (fields.map Field.base).filter fun b => b.wireType.size = width := by
  simp only [wireOrder, List.map_flatMap, List.filter_map]
  rfl

/-- **The base fields in the order of the payload** are the declared ones, width by width. -/
theorem map_base_baseOrder {d : MessageDeclaration} {fields : List Field}
    (h : resolveFields d.name 0 d.fields = .ok fields) :
    (baseOrder fields).map Field.base = widths.flatMap d.baseFieldsOfWidth := by
  rw [baseOrder, map_base_wireOrder, ← filterMap_baseField? h]
  rfl

/-! ### Bare fields -/

/-- Bare fields take as many bytes as the fields. -/
theorem totalSize_map_bare (fields : List Field) :
    totalSize (fields.map fun f => f.base.bare) = totalSize fields := by
  rw [totalSize, totalSize, endFrom, endFrom, List.foldl_map]
  rfl

/-- Bare fields are placed where the fields are. -/
theorem map_onWire_place_bare (offset : Nat) (fields : List Field) :
    (place offset (fields.map fun f => f.base.bare)).map Slot.onWire =
      (place offset fields).map Slot.onWire := by
  induction fields generalizing offset with
  | nil => rfl
  | cons f rest ih =>
      have hsize : (Shape.ofField f.base.bare).size = (Shape.ofField f).size := rfl
      rw [List.map_cons, place_cons, place_cons, List.map_cons, List.map_cons, hsize, ih]
      rfl

/-- The extra byte is that of the bare fields. -/
theorem extraByte_map_bare (name : String) (fields : List Field) :
    extraByte name (fields.map fun f => f.base.bare) = extraByte name fields := by
  have hbytes : (fields.map fun f => f.base.bare).flatMap extraBytes =
      fields.flatMap extraBytes := List.flatMap_map _ _ _
  rw [extraByte, hbytes, extraByte]

/-! ### The base layout -/

/-- The bare base fields of a declaration in the order of the payload. -/
def bareOrder (d : MessageDeclaration) : List Field :=
  (widths.flatMap d.baseFieldsOfWidth).map BaseField.bare

/-- The bare fields of a declaration stand in the order of its base fields. -/
theorem bareOrder_eq {d : MessageDeclaration} {fields : List Field}
    (h : resolveFields d.name 0 d.fields = .ok fields) :
    bareOrder d = (baseOrder fields).map fun f => f.base.bare := by
  rw [bareOrder, ← map_base_baseOrder h, List.map_map]
  rfl

section Compiled

variable {d : MessageDeclaration} {l : Layout}

/-- The extra byte is that of the bare fields. -/
theorem crcExtra_of_compile (h : compile d = .ok l) :
    l.crcExtra = extraByte d.name (bareOrder d) := by
  obtain ⟨fields, hfields, -, -, rfl⟩ := compile_eq_ok_iff.1 h
  rw [bareOrder_eq hfields, extraByte_map_bare, assemble]

/-- The least length is that of the bare fields. -/
theorem minSize_of_compile (h : compile d = .ok l) : l.minSize = totalSize (bareOrder d) := by
  obtain ⟨fields, hfields, -, -, rfl⟩ := compile_eq_ok_iff.1 h
  rw [bareOrder_eq hfields, totalSize_map_bare, assemble]

/-- The base slots are those of the bare fields, as far as the wire shows them. -/
theorem map_onWire_baseSlots (h : compile d = .ok l) :
    l.baseSlots.map Slot.onWire = (place 0 (bareOrder d)).map Slot.onWire := by
  obtain ⟨fields, hfields, -, -, rfl⟩ := compile_eq_ok_iff.1 h
  rw [bareOrder_eq hfields, map_onWire_place_bare, baseSlots_assemble]

/-- The base slots are those of the declared base fields, width by width. -/
theorem map_base_baseSlots (h : compile d = .ok l) :
    l.baseSlots.map (fun s => s.field.base) = widths.flatMap d.baseFieldsOfWidth := by
  obtain ⟨fields, hfields, -, -, rfl⟩ := compile_eq_ok_iff.1 h
  have hslots : (place 0 (baseOrder fields)).map (fun s => s.field.base) =
      ((place 0 (baseOrder fields)).map Slot.field).map Field.base := by
    rw [List.map_map]
    rfl
  rw [baseSlots_assemble, hslots, map_field_place, map_base_baseOrder hfields]

end Compiled

/-- **What the base layout depends on.** Two messages of one name compile. If for each width of
elements they have the same base fields, in the same order, then they have the same extra byte, the
same least size of a payload, and the same base slots, whatever their extension fields are and
however the fields of different widths are mixed: these are the slots of the declared base fields,
the widest first. -/
theorem base_layout_congr (d₁ d₂ : MessageDeclaration) (l₁ l₂ : Layout)
    (hname : d₁.name = d₂.name) (h₁ : compile d₁ = .ok l₁) (h₂ : compile d₂ = .ok l₂)
    (hbase : ∀ width ∈ widths, d₁.baseFieldsOfWidth width = d₂.baseFieldsOfWidth width) :
    l₁.crcExtra = l₂.crcExtra ∧ l₁.minSize = l₂.minSize ∧
      l₁.baseSlots.map Slot.onWire = l₂.baseSlots.map Slot.onWire ∧
      l₁.baseSlots.map (fun s => s.field.base) = widths.flatMap d₁.baseFieldsOfWidth := by
  have horder : bareOrder d₁ = bareOrder d₂ :=
    congrArg (List.map BaseField.bare) (List.flatMap_congr hbase)
  refine ⟨?_, ?_, ?_, map_base_baseSlots h₁⟩
  · rw [crcExtra_of_compile h₁, crcExtra_of_compile h₂, horder, hname]
  · rw [minSize_of_compile h₁, minSize_of_compile h₂, horder]
  · rw [map_onWire_baseSlots h₁, map_onWire_baseSlots h₂, horder]

end Layout

namespace Sample

/-- A message with two narrow fields around a wide one. -/
def reading : MessageDeclaration where
  id := 1
  name := "READING"
  fields := [⟨"uint8_t", "kind", 0, false, none⟩, ⟨"uint32_t", "time", 0, false, none⟩,
    ⟨"uint8_t[4]", "data", 0, false, none⟩]

/-- The same message with extension fields, and with the wide field at the end. -/
def revisedReading : MessageDeclaration where
  id := 2
  name := "READING"
  fields := [⟨"double", "scale", 0, true, none⟩, ⟨"uint8_t", "kind", 0, false, none⟩,
    ⟨"uint8_t", "data", 4, false, none⟩, ⟨"uint8_t", "flags", 0, true, none⟩,
    ⟨"uint32_t", "time", 0, false, none⟩]

end Sample

/-- Both revisions have the same extra byte and the same base layout. -/
theorem Layout.base_layout_congr_reading :
    ∃ l₁ l₂, compile Sample.reading = .ok l₁ ∧ compile Sample.revisedReading = .ok l₂ ∧
      l₁.crcExtra = l₂.crcExtra ∧ l₁.minSize = l₂.minSize ∧
      l₁.baseSlots.map Slot.onWire = l₂.baseSlots.map Slot.onWire ∧
      (l₁.baseSlots.map fun s => s.field.base.name) = ["time", "kind", "data"] := by
  obtain ⟨l₁, h₁⟩ : ∃ l₁, compile Sample.reading = .ok l₁ := ⟨_, rfl⟩
  obtain ⟨l₂, h₂⟩ : ∃ l₂, compile Sample.revisedReading = .ok l₂ := ⟨_, rfl⟩
  obtain ⟨hextra, hmin, hslots, hbase⟩ :=
    base_layout_congr Sample.reading Sample.revisedReading l₁ l₂ rfl h₁ h₂ (by decide +kernel)
  refine ⟨l₁, l₂, h₁, h₂, hextra, hmin, hslots, ?_⟩
  have hnames := congrArg (List.map BaseField.name) hbase
  rw [List.map_map] at hnames
  exact hnames.trans (by decide +kernel)

end Mavlink
