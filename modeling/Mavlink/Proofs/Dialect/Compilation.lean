import Mathlib.Data.List.Chain
import Mathlib.Data.List.Nodup
import Mavlink.Proofs.Dialect.Layout

/-!
# What compilation keeps and what it orders

Compilation resolves the types of the declared fields, puts the fields in order and places them. No
declared field is lost and none comes twice: the index of a field tells where it was declared.

## Conventions

Ordering by width is a selection, once for every width: a field has one of the four widths, so it
is selected exactly once (`perm_wireOrder`), and a selection keeps the order of declaration
(`pairwise_wireOrder`). Sorting with a comparison of widths and indices gives the same order.

## Main results

* `wireOrder_eq_mergeSort`: ordering by width is sorting by width and then by index.
* `perm_payloadOrder`, `pairwise_payloadOrder`: the order of the payload is one of the declared
  fields, with base fields before extension fields and wide elements before narrow ones.
* `isChain_place`, `getLast?_place`: slots follow each other without gaps.
* `laysOut_of_compile`: the invariant of compiled layouts that fit.
-/

namespace Mavlink

/-! ### Resolved fields -/

/-- A field **resolves** a declaration: it has the declared type and array length, and all else as
it is declared. -/
structure Field.Resolves (f : Field) (d : FieldDeclaration) : Prop where
  name_eq : f.name = d.name
  enumName_eq : f.enumName? = d.enumName?
  isExtension_eq : f.isExtension = d.isExtension
  type_eq : TypeName.resolve d.typeName d.arrayLength = .ok (f.wireType, f.arrayLength)

namespace Layout

/-- A field that was resolved has its index and the declared properties. -/
theorem resolves_of_resolveField {message : String} {index : Nat} {d : FieldDeclaration}
    {f : Field} (h : resolveField message index d = .ok f) : f.index = index ∧ f.Resolves d := by
  rw [resolveField] at h
  split at h
  · next htype =>
    obtain rfl := Except.ok.inj h
    exact ⟨rfl, rfl, rfl, rfl, htype⟩
  · cases h
  · cases h

/-- Declared fields resolve if the first one does, and the others with the next indices. -/
theorem resolveFields_cons_eq_ok_iff {message : String} {index : Nat} {d : FieldDeclaration}
    {rest : List FieldDeclaration} {fields : List Field} :
    resolveFields message index (d :: rest) = .ok fields ↔
      ∃ f fs, resolveField message index d = .ok f ∧
        resolveFields message (index + 1) rest = .ok fs ∧ fields = f :: fs := by
  constructor
  · intro h
    obtain ⟨f, hf, h⟩ := exists_of_bind_eq_ok h
    obtain ⟨fs, hfs, h⟩ := exists_of_bind_eq_ok h
    exact ⟨f, fs, hf, hfs, (Except.ok.inj h).symm⟩
  · rintro ⟨f, fs, hf, hfs, rfl⟩
    rw [resolveFields, hf, hfs]
    rfl

/-- Resolved fields carry consecutive indices. -/
theorem map_index_of_resolveFields {message : String} {index : Nat}
    {declared : List FieldDeclaration} {fields : List Field}
    (h : resolveFields message index declared = .ok fields) :
    fields.map Field.index = List.range' index declared.length := by
  induction declared generalizing index fields with
  | nil =>
      obtain rfl := Except.ok.inj h
      rfl
  | cons d rest ih =>
      obtain ⟨f, fs, hf, hfs, rfl⟩ := resolveFields_cons_eq_ok_iff.1 h
      rw [List.map_cons, (resolves_of_resolveField hf).1, ih hfs, List.length_cons,
        List.range'_succ]

/-- Resolved fields come in the order of declaration. -/
theorem pairwise_index_of_resolveFields {message : String} {index : Nat}
    {declared : List FieldDeclaration} {fields : List Field}
    (h : resolveFields message index declared = .ok fields) :
    fields.Pairwise fun a b => a.index < b.index := by
  rw [← List.pairwise_map (f := Field.index) (R := fun i j => i < j), map_index_of_resolveFields h]
  exact List.pairwise_lt_range'

/-- The index of a resolved field tells which declaration it resolves. -/
theorem resolves_of_resolveFields {message : String} {index : Nat}
    {declared : List FieldDeclaration} {fields : List Field}
    (h : resolveFields message index declared = .ok fields) {f : Field} (hf : f ∈ fields) :
    ∃ k d, f.index = index + k ∧ declared[k]? = some d ∧ f.Resolves d := by
  induction declared generalizing index fields with
  | nil =>
      obtain rfl := Except.ok.inj h
      exact absurd hf List.not_mem_nil
  | cons d rest ih =>
      obtain ⟨g, gs, hg, hgs, rfl⟩ := resolveFields_cons_eq_ok_iff.1 h
      rcases List.mem_cons.1 hf with rfl | hf
      · obtain ⟨hindex, hresolves⟩ := resolves_of_resolveField hg
        exact ⟨0, d, hindex, rfl, hresolves⟩
      · obtain ⟨k, e, hindex, hdeclared, hresolves⟩ := ih hgs hf
        refine ⟨k + 1, e, ?_, hdeclared, hresolves⟩
        omega

end Layout

/-! ### The order of the payload -/

/-- Wide elements come before narrow ones; fields of one width keep the order of declaration. -/
def Field.WiderOrEarlier (a b : Field) : Prop :=
  b.wireType.size < a.wireType.size ∨ a.wireType.size = b.wireType.size ∧ a.index < b.index

/-- Whether a field comes first when fields are compared: by width, the widest first, and then by
index. -/
def Field.comesFirst (a b : Field) : Bool :=
  b.wireType.size < a.wireType.size ∨ a.wireType.size = b.wireType.size ∧ a.index ≤ b.index

/-- The order of the payload: base fields **precede** extension fields. -/
def Field.Precedes (a b : Field) : Prop :=
  a.isExtension = false ∧ b.isExtension = true ∨
    a.isExtension = b.isExtension ∧ a.WiderOrEarlier b

namespace Layout

/-- **Ordering by width loses no field.** -/
theorem perm_wireOrder (fields : List Field) : (wireOrder fields).Perm fields := by
  have hcount : ∀ (f : Field) (width : Nat),
      (fields.filter fun g => g.wireType.size = width).count f =
        if f.wireType.size = width then fields.count f else 0 := by
    intro f width
    split
    · next h => exact List.count_filter (by simpa using h)
    · next h => exact List.count_eq_zero.2 fun hf => h (by simpa using (List.mem_filter.1 hf).2)
  rw [List.perm_iff_count]
  intro f
  simp only [wireOrder, widths, List.flatMap_cons, List.flatMap_nil, List.append_nil,
    List.count_append, hcount]
  cases f.wireType <;> simp [WireType.size]

/-- **The order of the widths**, if the fields come in the order of declaration. -/
theorem pairwise_wireOrder {fields : List Field}
    (h : fields.Pairwise fun a b => a.index < b.index) :
    (wireOrder fields).Pairwise Field.WiderOrEarlier := by
  have hwidth : ∀ {width : Nat} {f : Field},
      f ∈ fields.filter (fun g => g.wireType.size = width) → f.wireType.size = width := by
    intro width f hf
    simpa using (List.mem_filter.1 hf).2
  rw [wireOrder, List.pairwise_flatMap]
  constructor
  · intro width _
    refine (h.filter _).imp_of_mem ?_
    intro a b ha hb hlt
    exact .inr ⟨(hwidth ha).trans (hwidth hb).symm, hlt⟩
  · have hdescending : widths.Pairwise fun v w => w < v := by decide
    refine hdescending.imp ?_
    intro v w hlt a ha b hb
    exact .inl (by rw [hwidth ha, hwidth hb]; exact hlt)

/-- **Ordering by width is sorting**, if the fields come in the order of declaration: by width, and
then by index. -/
theorem wireOrder_eq_mergeSort {fields : List Field}
    (h : fields.Pairwise fun a b => a.index < b.index) :
    wireOrder fields = fields.mergeSort Field.comesFirst := by
  have hdistinct : (fields.map Field.index).Nodup := List.pairwise_map.2 (h.imp Nat.ne_of_lt)
  have hselected : (wireOrder fields).Pairwise fun a b => a.comesFirst b = true := by
    refine (pairwise_wireOrder h).imp ?_
    rintro a b (hwider | ⟨hsame, hearlier⟩)
    · exact decide_eq_true (.inl hwider)
    · exact decide_eq_true (.inr ⟨hsame, Nat.le_of_lt hearlier⟩)
  have hsorted : (fields.mergeSort Field.comesFirst).Pairwise fun a b => a.comesFirst b = true := by
    refine List.pairwise_mergeSort ?_ ?_ fields
    · intro a b c hab hbc
      simp only [Field.comesFirst, decide_eq_true_eq] at *
      omega
    · intro a b
      simp only [Field.comesFirst, Bool.or_eq_true, decide_eq_true_eq]
      omega
  refine List.Perm.eq_of_pairwise ?_ hselected hsorted
    ((perm_wireOrder fields).trans (List.mergeSort_perm fields _).symm)
  -- Fields that come first of each other have one index, and indices are different.
  intro a b ha hb hab hba
  simp only [Field.comesFirst, decide_eq_true_eq] at hab hba
  exact List.inj_on_of_nodup_map hdistinct (mem_of_mem_wireOrder ha)
    (List.mem_mergeSort.1 hb) (by omega)

/-- **The order of the payload is sorting** within the two groups of fields that were resolved. -/
theorem payloadOrder_of_resolveFields {message : String} {declared : List FieldDeclaration}
    {fields : List Field} (h : resolveFields message 0 declared = .ok fields) :
    payloadOrder fields = (fields.filter fun f => !f.isExtension).mergeSort Field.comesFirst ++
      (fields.filter fun f => f.isExtension).mergeSort Field.comesFirst := by
  have hascending := pairwise_index_of_resolveFields h
  rw [payloadOrder, baseOrder, extensionOrder, wireOrder_eq_mergeSort (hascending.filter _),
    wireOrder_eq_mergeSort (hascending.filter _)]

/-- **The order of the payload loses no field.** -/
theorem perm_payloadOrder (fields : List Field) : (payloadOrder fields).Perm fields := by
  have hsplit := List.filter_append_perm (fun f : Field => !f.isExtension) fields
  simp only [Bool.not_not] at hsplit
  exact ((perm_wireOrder _).append (perm_wireOrder _)).trans hsplit

/-- **The order of the payload**, if the fields come in the order of declaration. -/
theorem pairwise_payloadOrder {fields : List Field}
    (h : fields.Pairwise fun a b => a.index < b.index) :
    (payloadOrder fields).Pairwise Field.Precedes := by
  rw [payloadOrder, List.pairwise_append]
  refine ⟨?_, ?_, ?_⟩
  · refine (pairwise_wireOrder (h.filter _)).imp_of_mem ?_
    intro a b ha hb hab
    have hbase := isExtension_of_mem_baseOrder ha
    exact .inr ⟨hbase.trans (isExtension_of_mem_baseOrder hb).symm, hab⟩
  · refine (pairwise_wireOrder (h.filter _)).imp_of_mem ?_
    intro a b ha hb hab
    have hext := isExtension_of_mem_extensionOrder ha
    exact .inr ⟨hext.trans (isExtension_of_mem_extensionOrder hb).symm, hab⟩
  · intro a ha b hb
    exact .inl ⟨isExtension_of_mem_baseOrder ha, isExtension_of_mem_extensionOrder hb⟩

end Layout

/-! ### Sizes and places -/

/-- The bytes of a field are those of its elements. -/
theorem Shape.exactSize_ofField (f : Field) :
    (Shape.ofField f).exactSize = f.wireType.size * max f.arrayLength 1 := by
  rw [Shape.ofField]
  split
  · next hlen => rw [hlen, Nat.zero_max, Nat.mul_one, Shape.exactSize]
  · next hlen =>
    have hmax : max f.arrayLength 1 = f.arrayLength := by omega
    rw [hmax]
    split
    · next hchar => rw [hchar, WireType.size, Nat.one_mul, Shape.exactSize]
    · rfl

namespace Layout

/-- The first slot stands where placing starts. -/
theorem head?_place (offset : Nat) (fields : List Field) :
    ∀ s ∈ (place offset fields).head?, s.offset = offset := by
  cases fields with
  | nil => simp [place]
  | cons f rest => simp [place_cons, slotAt]

/-- **Each slot starts where the one before it ends.** -/
theorem isChain_place (offset : Nat) (fields : List Field) :
    (place offset fields).IsChain fun s t => t.offset = s.stop := by
  induction fields generalizing offset with
  | nil => exact .nil
  | cons f rest ih => exact List.isChain_cons.2 ⟨head?_place _ rest, ih _⟩

/-- **The last slot ends** where all fields together do. -/
theorem getLast?_place (offset : Nat) {fields : List Field} (h : fields ≠ []) :
    (place offset fields).getLast?.map Slot.stop = some (endFrom offset fields) := by
  obtain ⟨front, last, rfl⟩ := (List.eq_nil_or_concat' fields).resolve_left h
  rw [place_append, List.getLast?_append, endFrom_append]
  rfl

/-- Fields that take bytes are there. -/
theorem ne_nil_of_totalSize_pos {fields : List Field} (h : 0 < totalSize fields) :
    fields ≠ [] := by
  rintro rfl
  exact absurd h (Nat.lt_irrefl 0)

/-- The last slot ends where all fields together do, also if there is none. -/
theorem getLast?_place_getD (fields : List Field) :
    ((place 0 fields).getLast?.map Slot.stop).getD 0 = totalSize fields := by
  by_cases h : fields = []
  · rw [h]
    rfl
  · rw [getLast?_place 0 h, Option.getD_some, totalSize]

end Layout

/-! ### The invariant -/

/-- A layout **lays out** a declared message: it has every declared field once, in the order of the
payload and without gaps, and its sizes are where the last field and the last base field end. -/
structure Layout.LaysOut (l : Layout) (d : MessageDeclaration) : Prop where
  id_eq : l.id = d.id
  name_eq : l.name = d.name
  perm_indices : (l.slots.map fun s => s.field.index).Perm (List.range d.fields.length)
  resolves : ∀ s ∈ l.slots, ∃ f, d.fields[s.field.index]? = some f ∧ s.field.Resolves f
  ordered : l.slots.Pairwise fun s t => s.field.Precedes t.field
  size_eq : ∀ s ∈ l.slots, s.size = s.field.wireType.size * max s.field.arrayLength 1
  size_pos : ∀ s ∈ l.slots, 0 < s.size
  shape_size : ∀ s ∈ l.slots, s.shape.size = s.size
  first_offset : ∀ s ∈ l.slots.head?, s.offset = 0
  next_offset : l.slots.IsChain fun s t => t.offset = s.stop
  last_stop : l.slots.getLast?.map Slot.stop = some l.maxSize
  one_le_maxSize : 1 ≤ l.maxSize
  maxSize_le : l.maxSize ≤ 255
  last_base_stop : (l.baseSlots.getLast?.map Slot.stop).getD 0 = l.minSize
  minSize_le : l.minSize ≤ l.maxSize

namespace Layout

/-- **Every compiled layout that fits lays out its declaration.** -/
theorem laysOut_of_compile {d : MessageDeclaration} {l : Layout} (h : compile d = .ok l)
    (hfits : l.Fits) : l.LaysOut d := by
  obtain ⟨fields, hfields, hpos, hle, rfl⟩ := compile_eq_ok_iff.1 h
  have hplace := placement_assemble hfits
  have hindices := map_index_of_resolveFields hfields
  have hascending := pairwise_index_of_resolveFields hfields
  have hmem : ∀ s ∈ place 0 (payloadOrder fields), s.field ∈ fields := fun s hs =>
    (perm_payloadOrder fields).mem_iff.1 (field_mem_of_mem_place hs)
  have hsize : ∀ s ∈ place 0 (payloadOrder fields), s.size = (Shape.ofField s.field).exactSize := by
    intro s hs
    rw [exactSize_of_mem_place hplace.fits hs, shape_of_mem_place hs]
  exact {
    id_eq := rfl
    name_eq := rfl
    perm_indices := by
      have hslots : (place 0 (payloadOrder fields)).map (fun s => s.field.index) =
          (payloadOrder fields).map Field.index := by
        rw [← map_field_place 0 (payloadOrder fields), List.map_map, map_field_place]
        rfl
      rw [List.range_eq_range', ← hindices, assemble, hslots]
      exact (perm_payloadOrder fields).map Field.index
    resolves := by
      intro s hs
      obtain ⟨k, f, hindex, hdeclared, hresolves⟩ := resolves_of_resolveFields hfields (hmem s hs)
      rw [Nat.zero_add] at hindex
      exact ⟨f, hindex ▸ hdeclared, hresolves⟩
    ordered := by
      rw [← List.pairwise_map (f := Slot.field) (R := Field.Precedes), assemble, map_field_place]
      exact pairwise_payloadOrder hascending
    size_eq := fun s hs => (hsize s hs).trans (Shape.exactSize_ofField s.field)
    size_pos := by
      intro s hs
      rw [hsize s hs]
      exact Shape.exactSize_ofField_pos s.field
    shape_size := fun s hs => (size_of_mem_place hs).symm
    first_offset := head?_place 0 (payloadOrder fields)
    next_offset := isChain_place 0 (payloadOrder fields)
    last_stop := getLast?_place 0 (ne_nil_of_totalSize_pos hpos)
    one_le_maxSize := hpos
    maxSize_le := hle
    last_base_stop := by
      rw [baseSlots_assemble, getLast?_place_getD, assemble]
    minSize_le := hplace.minSize_le_maxSize }

/-- A message whose narrow base field stands before wider ones, and which has extension fields. -/
theorem laysOut_of_compile_sysStatus :
    ∃ l, compile Sample.sysStatus = .ok l ∧ l.minSize = 31 ∧ l.maxSize = 43 ∧
      l.LaysOut Sample.sysStatus := by
  have hsizes : (compile Sample.sysStatus).toOption.map
      (fun l => (l.minSize, l.maxSize, decide l.Fits)) = some (31, 43, true) := by decide +kernel
  cases h : compile Sample.sysStatus with
  | error e =>
      rw [h] at hsizes
      cases hsizes
  | ok l =>
      rw [h] at hsizes
      obtain ⟨hmin, hmax, hfits⟩ : l.minSize = 31 ∧ l.maxSize = 43 ∧ decide l.Fits = true := by
        simpa using Option.some.inj hsizes
      exact ⟨l, rfl, hmin, hmax, laysOut_of_compile h (of_decide_eq_true hfits)⟩

end Layout

end Mavlink
