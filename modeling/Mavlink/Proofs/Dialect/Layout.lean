import Mavlink.Dialect.Registry
import Mavlink.Dialect.Sample

/-!
# Where the fields of a message are

A compiled layout places its fields one after the other, without gaps: first the base fields, then
the extension fields. So the slots before any position that ends a slot are the slots of a front
part of the fields, and that part takes exactly the bytes up to the position.

All this holds of fields that fit into 64 bits together. Sizes and positions wrap there, so they are
exact as long as the number of bytes that all fields take is: this is what a layout that *fits* is
required to have, and what every slot of it inherits.

## Conventions

`place offset fields` is the list of slots that starts at `offset`; statements about it are by
induction on the fields, with the offset growing by the size of each. A field takes at least one
byte, so that different slots end at different positions. `exactSize` adds sizes up without a bound;
`FitsFrom offset fields` says that this makes no difference behind the offset.

## Main results

* `endFrom_eq`, `stop_of_mem_place`: positions are exact where the fields fit.
* `exists_split_of_mem_place`: a slot is the slot of one field, after those placed before it.
* `takeWhile_place`: the slots that end within the front part are those of the front part.
* `compile_eq_ok_iff`: which declarations compile, and to what.
* `Registry.exists_declaration_of_message?`: every layout of a compiled dialect is that of one of
  its declared messages, hence (`Registry.placement_of_message?`), if it fits, a placement of base
  fields followed by extension fields.
-/

namespace Mavlink

/-- Steps that succeed one after the other succeed each on its own. -/
theorem exists_of_bind_eq_ok {ε α β : Type} {x : Except ε α} {f : α → Except ε β} {b : β}
    (h : x >>= f = .ok b) : ∃ a, x = .ok a ∧ f a = .ok b := by
  cases x with
  | error e => cases h
  | ok a => exact ⟨a, rfl, h⟩

/-! ### Sizes -/

/-- Numbers of 64 bits are kept. -/
theorem wrap_of_lt {n : Nat} (h : n < sizeBound) : wrap n = n :=
  Nat.mod_eq_of_lt h

namespace Shape

/-- The number of bytes that the shape takes, however many they are. -/
def exactSize : Shape → Nat
  | scalar t => t.size
  | array t n => t.size * n
  | text n => n

/-- A shape **fits** if 64 bits hold the number of its bytes. -/
def Fits (shape : Shape) : Prop :=
  shape.exactSize < sizeBound

/-- **The size of a shape that fits is exact.** -/
theorem size_eq_exactSize {shape : Shape} (h : shape.Fits) : shape.size = shape.exactSize := by
  cases shape with
  | scalar t => rfl
  | array t n => exact wrap_of_lt h
  | text n => rfl

/-- Every field takes at least one byte. -/
theorem exactSize_ofField_pos (f : Field) : 0 < (ofField f).exactSize := by
  have htype := f.wireType.size_pos
  rw [ofField]
  split
  · exact htype
  · next hlen =>
    split
    · exact Nat.pos_of_ne_zero hlen
    · exact Nat.mul_pos htype (Nat.pos_of_ne_zero hlen)

end Shape

namespace Layout

/-- The number of bytes that the fields take together, however many they are. -/
def exactSize : List Field → Nat
  | [] => 0
  | f :: fields => (Shape.ofField f).exactSize + exactSize fields

/-- The first field and the others take their bytes together. -/
theorem exactSize_cons (f : Field) (fields : List Field) :
    exactSize (f :: fields) = (Shape.ofField f).exactSize + exactSize fields := rfl

/-- Fields take as many bytes as their front part and the rest. -/
theorem exactSize_append (a b : List Field) :
    exactSize (a ++ b) = exactSize a + exactSize b := by
  induction a with
  | nil => exact (Nat.zero_add _).symm
  | cons f a ih => rw [List.cons_append, exactSize_cons, exactSize_cons, ih, Nat.add_assoc]

/-- Fields **fit** behind a position if all of them together end at a position of 64 bits. -/
def FitsFrom (offset : Nat) (fields : List Field) : Prop :=
  offset + exactSize fields < sizeBound

section FitsFrom

variable {offset : Nat} {f : Field} {fields a b : List Field}

/-- The shapes of fields that fit do. -/
theorem FitsFrom.head (h : FitsFrom offset (f :: fields)) : (Shape.ofField f).Fits := by
  rw [FitsFrom, exactSize_cons] at h
  rw [Shape.Fits]
  omega

/-- The size of a field that fits is exact. -/
theorem FitsFrom.size_eq (h : FitsFrom offset (f :: fields)) :
    (Shape.ofField f).size = (Shape.ofField f).exactSize :=
  Shape.size_eq_exactSize h.head

/-- The position behind a field that fits is exact. -/
theorem FitsFrom.wrap_eq (h : FitsFrom offset (f :: fields)) :
    wrap (offset + (Shape.ofField f).size) = offset + (Shape.ofField f).exactSize := by
  rw [h.size_eq]
  rw [FitsFrom, exactSize_cons] at h
  exact wrap_of_lt (by omega)

/-- The other fields fit behind the first one. -/
theorem FitsFrom.tail (h : FitsFrom offset (f :: fields)) :
    FitsFrom (offset + (Shape.ofField f).exactSize) fields := by
  rw [FitsFrom, exactSize_cons, ← Nat.add_assoc] at h
  exact h

/-- A front part of fields that fit does. -/
theorem FitsFrom.left (h : FitsFrom offset (a ++ b)) : FitsFrom offset a := by
  rw [FitsFrom, exactSize_append] at h
  exact Nat.lt_of_le_of_lt (by omega) h

/-- The rest of fields that fit does, behind the front part. -/
theorem FitsFrom.right (h : FitsFrom offset (a ++ b)) : FitsFrom (offset + exactSize a) b := by
  rwa [FitsFrom, exactSize_append, ← Nat.add_assoc] at h

/-- The rest of the fields goes on behind the front part. -/
theorem endFrom_append (offset : Nat) (a b : List Field) :
    endFrom offset (a ++ b) = endFrom (endFrom offset a) b :=
  List.foldl_append

/-- **The position behind fields that fit is exact.** -/
theorem endFrom_eq (h : FitsFrom offset fields) :
    endFrom offset fields = offset + exactSize fields := by
  induction fields generalizing offset with
  | nil => rfl
  | cons f rest ih =>
      have htail := ih h.tail
      rw [← h.wrap_eq] at htail
      rw [exactSize_cons, ← Nat.add_assoc, ← h.wrap_eq]
      exact htail

/-- The size of fields that fit is exact. -/
theorem totalSize_eq (h : FitsFrom 0 fields) : totalSize fields = exactSize fields :=
  (endFrom_eq h).trans (Nat.zero_add _)

end FitsFrom

/-! ### Places -/

/-- The slot of a field at a position. -/
def slotAt (offset : Nat) (f : Field) : Slot where
  field := f
  shape := Shape.ofField f
  offset := offset
  size := (Shape.ofField f).size

/-- The first field stands at the position, the others behind it. -/
theorem place_cons (offset : Nat) (f : Field) (rest : List Field) :
    place offset (f :: rest) =
      slotAt offset f :: place (wrap (offset + (Shape.ofField f).size)) rest := rfl

/-- The first field stands at the position, the others exactly behind it. -/
theorem place_cons_of_fits {offset : Nat} {f : Field} {rest : List Field}
    (h : FitsFrom offset (f :: rest)) : place offset (f :: rest) =
      slotAt offset f :: place (offset + (Shape.ofField f).exactSize) rest := by
  rw [place_cons, h.wrap_eq]

/-- A field that fits ends exactly where its bytes do. -/
theorem stop_slotAt {offset : Nat} {f : Field} {rest : List Field}
    (h : FitsFrom offset (f :: rest)) :
    (slotAt offset f).stop = offset + (Shape.ofField f).exactSize :=
  h.wrap_eq

/-- The rest of the fields stands where the front part ends. -/
theorem place_append (offset : Nat) (a b : List Field) :
    place offset (a ++ b) = place offset a ++ place (endFrom offset a) b := by
  induction a generalizing offset with
  | nil => rfl
  | cons f rest ih =>
      rw [List.cons_append, place_cons, place_cons, ih, List.cons_append]
      rfl

/-- The rest of the fields stands exactly behind the front part. -/
theorem place_append_of_fits {offset : Nat} {a b : List Field} (h : FitsFrom offset (a ++ b)) :
    place offset (a ++ b) = place offset a ++ place (offset + exactSize a) b := by
  rw [place_append, endFrom_eq h.left]

/-- Every field has its slot, in the same order. -/
theorem map_field_place (offset : Nat) (fields : List Field) :
    (place offset fields).map Slot.field = fields := by
  induction fields generalizing offset with
  | nil => rfl
  | cons f rest ih => rw [place_cons, List.map_cons, ih, slotAt]

/-- Every slot is that of its field, wherever it stands. -/
theorem exists_eq_slotAt {offset : Nat} {fields : List Field} {s : Slot}
    (h : s ∈ place offset fields) : ∃ o, s = slotAt o s.field := by
  induction fields generalizing offset with
  | nil => exact absurd h List.not_mem_nil
  | cons f rest ih =>
      rcases List.mem_cons.1 h with rfl | h
      · exact ⟨offset, rfl⟩
      · exact ih h

section Member

variable {offset : Nat} {fields : List Field} {s : Slot}

/-- The field of a slot is one of those placed. -/
theorem field_mem_of_mem_place (h : s ∈ place offset fields) : s.field ∈ fields := by
  rw [← map_field_place offset fields]
  exact List.mem_map_of_mem h

/-- A slot has the shape of its field. -/
theorem shape_of_mem_place (h : s ∈ place offset fields) : s.shape = Shape.ofField s.field := by
  obtain ⟨o, hs⟩ := exists_eq_slotAt h
  rw [hs]
  rfl

/-- A slot has the size of its shape. -/
theorem size_of_mem_place (h : s ∈ place offset fields) : s.size = s.shape.size := by
  obtain ⟨o, hs⟩ := exists_eq_slotAt h
  rw [hs]
  rfl

/-- **A slot belongs to one field**, exactly behind the fields that are placed before it. -/
theorem exists_split_of_mem_place (hfits : FitsFrom offset fields) (h : s ∈ place offset fields) :
    ∃ a b, fields = a ++ s.field :: b ∧ s = slotAt (offset + exactSize a) s.field := by
  induction fields generalizing offset with
  | nil => exact absurd h List.not_mem_nil
  | cons f rest ih =>
      rw [place_cons_of_fits hfits, List.mem_cons] at h
      rcases h with rfl | h
      · exact ⟨[], rest, rfl, rfl⟩
      · obtain ⟨a, b, hsplit, hs⟩ := ih hfits.tail h
        refine ⟨f :: a, b, ?_, ?_⟩
        · rw [List.cons_append, ← hsplit]
        · rw [exactSize_cons, ← Nat.add_assoc]
          exact hs

/-- **Slots of fields that fit end exactly** where their bytes do. -/
theorem stop_of_mem_place (hfits : FitsFrom offset fields) (h : s ∈ place offset fields) :
    s.stop = s.offset + s.size := by
  obtain ⟨a, b, rfl, hs⟩ := exists_split_of_mem_place hfits h
  rw [hs, stop_slotAt hfits.right, ← hfits.right.size_eq]
  rfl

/-- The shapes of the slots fit if all fields do. -/
theorem fits_of_mem_place (hfits : FitsFrom offset fields) (h : s ∈ place offset fields) :
    s.shape.Fits := by
  obtain ⟨a, b, rfl, -⟩ := exists_split_of_mem_place hfits h
  rw [shape_of_mem_place h]
  exact hfits.right.head

/-- The size of a slot is exact if all fields fit. -/
theorem exactSize_of_mem_place (hfits : FitsFrom offset fields) (h : s ∈ place offset fields) :
    s.size = s.shape.exactSize :=
  (size_of_mem_place h).trans (Shape.size_eq_exactSize (fits_of_mem_place hfits h))

/-- No slot is empty. -/
theorem offset_lt_stop (hfits : FitsFrom offset fields) (h : s ∈ place offset fields) :
    s.offset < s.stop := by
  have hpos := Shape.exactSize_ofField_pos s.field
  rw [stop_of_mem_place hfits h, exactSize_of_mem_place hfits h, shape_of_mem_place h]
  omega

/-- No slot starts before the position from which on fields are placed. -/
theorem le_offset (hfits : FitsFrom offset fields) (h : s ∈ place offset fields) :
    offset ≤ s.offset := by
  obtain ⟨a, b, -, hs⟩ := exists_split_of_mem_place hfits h
  rw [hs]
  exact Nat.le_add_right offset (exactSize a)

/-- No slot ends behind the bytes of all fields. -/
theorem stop_le (hfits : FitsFrom offset fields) (h : s ∈ place offset fields) :
    s.stop ≤ offset + exactSize fields := by
  have hstop := stop_of_mem_place hfits h
  have hsize := exactSize_of_mem_place hfits h
  obtain ⟨a, b, rfl, hs⟩ := exists_split_of_mem_place hfits h
  have hoffset : s.offset = offset + exactSize a := congrArg Slot.offset hs
  rw [hstop, hsize, hoffset, shape_of_mem_place h, exactSize_append, exactSize_cons]
  omega

end Member

/-- **The slots within a front part.** -/
theorem takeWhile_place {offset : Nat} {a b : List Field} (hfits : FitsFrom offset (a ++ b)) :
    (place offset (a ++ b)).takeWhile (fun s => decide (s.stop ≤ offset + exactSize a)) =
      place offset a := by
  have hfront : ∀ s ∈ place offset a, decide (s.stop ≤ offset + exactSize a) = true :=
    fun s hs => decide_eq_true (stop_le hfits.left hs)
  rw [place_append_of_fits hfits, List.takeWhile_append_of_pos hfront]
  cases b with
  | nil => exact List.append_nil _
  | cons f rest =>
      have hmem : slotAt (offset + exactSize a) f ∈ place (offset + exactSize a) (f :: rest) :=
        List.mem_cons_self
      have hbeyond : ¬ (slotAt (offset + exactSize a) f).stop ≤ offset + exactSize a :=
        Nat.not_le.2 (offset_lt_stop hfits.right hmem)
      rw [place_cons, List.takeWhile_cons, decide_eq_false hbeyond, if_neg Bool.false_ne_true,
        List.append_nil]

/-! ### Compiled layouts -/

/-- A layout is a **placement** of base fields followed by extension fields that fit. -/
structure Placement (l : Layout) (base extensions : List Field) : Prop where
  slots_eq : l.slots = place 0 (base ++ extensions)
  minSize_eq : l.minSize = exactSize base
  maxSize_eq : l.maxSize = exactSize (base ++ extensions)
  base_isBase : ∀ f ∈ base, f.isExtension = false
  extensions_isExtension : ∀ f ∈ extensions, f.isExtension = true
  fits : FitsFrom 0 (base ++ extensions)

/-- Ordering by width adds no field. -/
theorem mem_of_mem_wireOrder {fields : List Field} {f : Field} (h : f ∈ wireOrder fields) :
    f ∈ fields := by
  obtain ⟨width, -, hf⟩ := List.mem_flatMap.1 h
  exact (List.mem_filter.1 hf).1

/-- A property that all placed fields have, or none, selects all slots, or none. -/
theorem filter_place_of_all (offset : Nat) {fields : List Field} {p : Field → Bool} {keep : Bool}
    (h : ∀ f ∈ fields, p f = keep) :
    (place offset fields).filter (fun s => p s.field) =
      if keep then place offset fields else [] := by
  have hslot : ∀ s ∈ place offset fields, p s.field = keep := fun s hs =>
    h s.field (field_mem_of_mem_place hs)
  cases keep with
  | false => exact List.filter_eq_nil_iff.mpr fun s hs => ne_true_of_eq_false (hslot s hs)
  | true => exact List.filter_eq_self.2 hslot

section Groups

variable {l : Layout} {base extensions : List Field}

/-- The base fields are placed in front. -/
theorem baseSlots_of_slots (hslots : l.slots = place 0 (base ++ extensions))
    (hbase : ∀ f ∈ base, f.isExtension = false)
    (hext : ∀ f ∈ extensions, f.isExtension = true) : l.baseSlots = place 0 base := by
  have hbase : ∀ f ∈ base, (!f.isExtension) = true := fun f hf => by rw [hbase f hf]; rfl
  have hext : ∀ f ∈ extensions, (!f.isExtension) = false := fun f hf => by rw [hext f hf]; rfl
  rw [baseSlots, hslots, place_append, List.filter_append, filter_place_of_all 0 hbase,
    filter_place_of_all _ hext, if_pos rfl, if_neg Bool.false_ne_true, List.append_nil]

/-- The base slots of a placement are those of its base fields. -/
theorem Placement.baseSlots_eq (h : l.Placement base extensions) : l.baseSlots = place 0 base :=
  baseSlots_of_slots h.slots_eq h.base_isBase h.extensions_isExtension

/-- The extension fields are placed behind the base fields. -/
theorem Placement.extensionSlots_eq (h : l.Placement base extensions) :
    l.extensionSlots = place l.minSize extensions := by
  rw [extensionSlots, h.slots_eq, place_append_of_fits h.fits, List.filter_append,
    filter_place_of_all 0 h.base_isBase, filter_place_of_all _ h.extensions_isExtension,
    if_neg Bool.false_ne_true, if_pos rfl, List.nil_append, Nat.zero_add, h.minSize_eq]

/-- The base fields of a placement fit. -/
theorem Placement.fits_base (h : l.Placement base extensions) : FitsFrom 0 base :=
  h.fits.left

/-- The extension fields of a placement fit behind the base fields. -/
theorem Placement.fits_extensions (h : l.Placement base extensions) :
    FitsFrom l.minSize extensions := by
  have hright := h.fits.right
  rwa [Nat.zero_add, ← h.minSize_eq] at hright

/-- The base fields take at most as many bytes as all fields. -/
theorem Placement.minSize_le_maxSize (h : l.Placement base extensions) :
    l.minSize ≤ l.maxSize := by
  rw [h.minSize_eq, h.maxSize_eq, exactSize_append]
  exact Nat.le_add_right _ _

/-- No slot ends behind the greatest length. -/
theorem Placement.stop_le_maxSize (h : l.Placement base extensions) {s : Slot}
    (hs : s ∈ l.slots) : s.stop ≤ l.maxSize := by
  rw [h.slots_eq] at hs
  have hstop := stop_le h.fits hs
  rwa [Nat.zero_add, ← h.maxSize_eq] at hstop

end Groups

/-- The base fields in the order of the payload. -/
def baseOrder (fields : List Field) : List Field :=
  wireOrder (fields.filter fun f => !f.isExtension)

/-- The extension fields in the order of the payload. -/
def extensionOrder (fields : List Field) : List Field :=
  wireOrder (fields.filter fun f => f.isExtension)

/-- All fields in the order of the payload. -/
def payloadOrder (fields : List Field) : List Field :=
  baseOrder fields ++ extensionOrder fields

/-- The layout of a message whose declared fields resolve to the given ones. -/
def assemble (d : MessageDeclaration) (fields : List Field) : Layout where
  id := d.id
  name := d.name
  slots := place 0 (payloadOrder fields)
  crcExtra := extraByte d.name (baseOrder fields)
  maxSize := totalSize (payloadOrder fields)
  minSize := totalSize (baseOrder fields)

/-- What becomes of a declaration whose types resolve. -/
theorem compile_of_resolveFields {d : MessageDeclaration} {fields : List Field}
    (h : resolveFields d.name 0 d.fields = .ok fields) :
    compile d =
      if totalSize (payloadOrder fields) = 0 then .error (.emptyPayload d.name d.id)
      else if maxPayloadSize < totalSize (payloadOrder fields) then
        .error (.payloadTooLarge d.name d.id (totalSize (payloadOrder fields)))
      else .ok (assemble d fields) := by
  rw [compile, h]
  rfl

/-- **Which declarations compile**, and to what: every type must resolve, and the fields must take
between one and 255 bytes. -/
theorem compile_eq_ok_iff {d : MessageDeclaration} {l : Layout} :
    compile d = .ok l ↔ ∃ fields, resolveFields d.name 0 d.fields = .ok fields ∧
      0 < totalSize (payloadOrder fields) ∧ totalSize (payloadOrder fields) ≤ maxPayloadSize ∧
      l = assemble d fields := by
  cases hfields : resolveFields d.name 0 d.fields with
  | error e =>
      rw [compile, hfields]
      constructor
      · intro h
        cases h
      · rintro ⟨fields, h, -⟩
        cases h
  | ok fields =>
      rw [compile_of_resolveFields hfields]
      constructor
      · intro h
        split at h
        · cases h
        · split at h
          · cases h
          · exact ⟨fields, rfl, by omega, by omega, (Except.ok.inj h).symm⟩
      · rintro ⟨fields', h, hpos, hle, rfl⟩
        obtain rfl := Except.ok.inj h
        rw [if_neg (by omega), if_neg (by omega)]

/-- The fields in front are base fields. -/
theorem isExtension_of_mem_baseOrder {fields : List Field} {f : Field}
    (h : f ∈ baseOrder fields) : f.isExtension = false := by
  have hbase := (List.mem_filter.1 (mem_of_mem_wireOrder h)).2
  rwa [Bool.not_eq_true'] at hbase

/-- The fields behind them are extension fields. -/
theorem isExtension_of_mem_extensionOrder {fields : List Field} {f : Field}
    (h : f ∈ extensionOrder fields) : f.isExtension = true :=
  (List.mem_filter.1 (mem_of_mem_wireOrder h)).2

/-- A layout **fits** if its fields take a number of bytes that 64 bits hold, so that none of its
sizes and positions is short of what its fields take. -/
def Fits (l : Layout) : Prop :=
  FitsFrom 0 (l.slots.map Slot.field)

instance (l : Layout) : Decidable l.Fits :=
  inferInstanceAs (Decidable (_ < _))

/-- Whether a layout fits is a matter of the declared fields. -/
theorem fits_assemble_iff {d : MessageDeclaration} {fields : List Field} :
    (assemble d fields).Fits ↔ FitsFrom 0 (payloadOrder fields) := by
  rw [Fits, assemble, map_field_place]

/-- **A layout that fits is a placement.** -/
theorem placement_assemble {d : MessageDeclaration} {fields : List Field}
    (h : (assemble d fields).Fits) :
    (assemble d fields).Placement (baseOrder fields) (extensionOrder fields) :=
  have hfits := fits_assemble_iff.1 h
  { slots_eq := rfl
    minSize_eq := totalSize_eq hfits.left
    maxSize_eq := totalSize_eq hfits
    base_isBase := fun _ => isExtension_of_mem_baseOrder
    extensions_isExtension := fun _ => isExtension_of_mem_extensionOrder
    fits := hfits }

/-- The base slots of an assembled layout are those of the base fields, whether it fits or not. -/
theorem baseSlots_assemble (d : MessageDeclaration) (fields : List Field) :
    (assemble d fields).baseSlots = place 0 (baseOrder fields) :=
  baseSlots_of_slots rfl (fun _ => isExtension_of_mem_baseOrder)
    fun _ => isExtension_of_mem_extensionOrder

section Compiled

variable {d : MessageDeclaration} {l : Layout}

/-- **Every compiled layout that fits is a placement.** -/
theorem placement_of_compile (h : compile d = .ok l) (hfits : l.Fits) :
    ∃ base extensions, l.Placement base extensions := by
  obtain ⟨fields, -, -, -, rfl⟩ := compile_eq_ok_iff.1 h
  exact ⟨_, _, placement_assemble hfits⟩

/-- A compiled layout has the id of its declaration. -/
theorem id_of_compile (h : compile d = .ok l) : l.id = d.id := by
  obtain ⟨fields, -, -, -, rfl⟩ := compile_eq_ok_iff.1 h
  rfl

/-- A compiled layout has the name of its declaration. -/
theorem name_of_compile (h : compile d = .ok l) : l.name = d.name := by
  obtain ⟨fields, -, -, -, rfl⟩ := compile_eq_ok_iff.1 h
  rfl

/-- No compiled layout is empty. -/
theorem one_le_maxSize (h : compile d = .ok l) : 1 ≤ l.maxSize := by
  obtain ⟨fields, -, hpos, -, rfl⟩ := compile_eq_ok_iff.1 h
  exact hpos

/-- No compiled layout is longer than a payload can be. -/
theorem maxSize_le (h : compile d = .ok l) : l.maxSize ≤ maxPayloadSize := by
  obtain ⟨fields, -, -, hle, rfl⟩ := compile_eq_ok_iff.1 h
  exact hle

end Compiled

end Layout

namespace Registry

open Layout

/-- The layouts of a dialect are those of its declared messages. -/
theorem exists_declaration_of_mem {done layouts : List Layout}
    {messages : List MessageDeclaration} (h : compileMessages done messages = .ok layouts)
    {l : Layout} (hl : l ∈ layouts) : l ∈ done ∨ ∃ d ∈ messages, Layout.compile d = .ok l := by
  induction messages generalizing done with
  | nil =>
      obtain rfl := Except.ok.inj h
      exact .inl hl
  | cons d rest ih =>
      rw [compileMessages] at h
      split at h
      · cases h
      · split at h
        · cases h
        · obtain ⟨layout, hlayout, h⟩ := exists_of_bind_eq_ok h
          rcases ih h with hdone | ⟨m, hm, hcompile⟩
          · rcases List.mem_append.1 hdone with hdone | hlast
            · exact .inl hdone
            · obtain rfl := List.mem_singleton.1 hlast
              exact .inr ⟨d, List.mem_cons_self, hlayout⟩
          · exact .inr ⟨m, List.mem_cons_of_mem d hm, hcompile⟩

/-- **A message of a compiled dialect** is one of the declared messages, compiled. -/
theorem exists_declaration_of_message? {d : Dialect} {r : Registry} {id : UInt32} {l : Layout}
    (hr : compile d = .ok r) (hl : r.message? id = some l) :
    ∃ m ∈ d.messages, Layout.compile m = .ok l := by
  obtain ⟨layouts, hlayouts, hr⟩ := exists_of_bind_eq_ok hr
  obtain rfl := Except.ok.inj hr
  rcases exists_declaration_of_mem hlayouts (List.mem_of_find?_eq_some hl) with hnil | hm
  · exact absurd hnil List.not_mem_nil
  · exact hm

/-- **Every layout of a compiled dialect that fits is a placement.** -/
theorem placement_of_message? {d : Dialect} {r : Registry} {id : UInt32} {l : Layout}
    (hr : compile d = .ok r) (hl : r.message? id = some l) (hfits : l.Fits) :
    ∃ base extensions, l.Placement base extensions := by
  obtain ⟨m, -, hm⟩ := exists_declaration_of_message? hr hl
  exact placement_of_compile hm hfits

/-- A registry **fits** if all of its layouts do. -/
def Fits (r : Registry) : Prop :=
  ∀ l ∈ r.layouts, l.Fits

instance (r : Registry) : Decidable r.Fits :=
  inferInstanceAs (Decidable (∀ l ∈ r.layouts, l.Fits))

/-- The messages of a registry that fits do. -/
theorem Fits.of_message? {r : Registry} (h : r.Fits) {id : UInt32} {l : Layout}
    (hl : r.message? id = some l) : l.Fits :=
  h l (List.mem_of_find?_eq_some hl)

end Registry

/-! ### Sample dialects -/

namespace Sample

/-- The compiled sample dialect. -/
def registry : Registry :=
  match Registry.compile dialect with
  | .ok r => r
  | .error _ => { dialectName := dialect.name, layouts := [], enums := [] }

/-- The sample dialect compiles. -/
theorem compile_dialect : Registry.compile dialect = .ok registry := by
  have hok : (Registry.compile dialect).isOk = true := by decide +kernel
  unfold registry
  cases hr : Registry.compile dialect with
  | ok r => rfl
  | error e =>
      rw [hr] at hok
      exact absurd hok Bool.false_ne_true

/-- The sample dialect fits. -/
theorem fits_registry : registry.Fits := by
  decide +kernel

/-- A message whose sizes do not fit into 64 bits: its extension field ends before it starts, five
bytes before the base field does. -/
def wrappedExtension : MessageDeclaration where
  id := 1
  name := "WRAPPED"
  fields := [⟨"char[10]", "a", 0, false, none⟩, ⟨"char[18446744073709551611]", "b", 0, true, none⟩]

/-- A message whose base fields do not fit into 64 bits: the last of them ends at the tenth byte,
where the first one has not ended yet. -/
def wrappedBase : MessageDeclaration where
  id := 1
  name := "WRAPPED"
  fields := [⟨"char[300]", "a", 0, false, none⟩, ⟨"char[9223372036854775808]", "b", 0, false, none⟩,
    ⟨"char[9223372036854775518]", "c", 0, false, none⟩]

/-- The registry of a single message, without layouts if the message does not compile. -/
def registryOf (m : MessageDeclaration) : Registry where
  dialectName := "wrapped"
  layouts := (Layout.compile m).toOption.toList
  enums := []

/-- Both messages compile although they do not fit. -/
theorem compile_wrapped : ∀ m ∈ [wrappedExtension, wrappedBase],
    Registry.compile { name := "wrapped", messages := [m], enums := [] } = .ok (registryOf m) ∧
      ¬ (registryOf m).Fits := by
  have hcompiles : ∀ m ∈ [wrappedExtension, wrappedBase], (Layout.compile m).isOk = true ∧
      m.id ≤ Version.v2.maxMessageId ∧ ¬ (registryOf m).Fits := by decide +kernel
  intro m hm
  obtain ⟨hok, hid, hfits⟩ := hcompiles m hm
  refine ⟨?_, hfits⟩
  cases hl : Layout.compile m with
  | error e =>
      rw [hl] at hok
      exact absurd hok Bool.false_ne_true
  | ok l =>
      rw [Registry.compile, Registry.compileMessages, if_neg (UInt32.not_lt.2 hid), hl, registryOf,
        hl]
      rfl

end Sample

end Mavlink
