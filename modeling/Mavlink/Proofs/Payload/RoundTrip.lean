import Mavlink.Proofs.Payload.Slots

/-!
# Fields come back from their payload

A payload ends behind the last extension field that is given, or behind the base fields. Wherever
it ends, it is the bytes of a front part of the fields: those behind it are left out, and those
within it that were not given are zero. So reading it gives exactly the fields that end within it,
and each field that was given with its own value.

## Main results

* `Layout.endsAt_payloadSize`: the payload ends where the last given extension field does.
* `Layout.Placement.exists_front_of_endsAt`: the fields within such a payload are a front part.
* `Registry.exists_encodePayload_eq_writeSlots`: a payload is written over these fields.
* `Registry.encode_then_decode`: what is written into a payload is read from it.
-/

namespace Mavlink

namespace Layout

/-- The payload of the given fields **ends at** a position: where the last given extension field
ends, or behind the base fields if no extension field is given. -/
def EndsAt (l : Layout) (fields : Fields) (n : Nat) : Prop :=
  (∃ s ∈ l.extensionSlots, fields.contains s.name = true ∧ s.stop = n ∧
    ∀ t ∈ l.extensionSlots, fields.contains t.name = true → t.stop ≤ n) ∨
  (∀ s ∈ l.extensionSlots, fields.contains s.name = false) ∧ n = l.minSize

/-- **The payload ends where the last given extension field does.** -/
theorem endsAt_payloadSize (l : Layout) (fields : Fields) :
    l.EndsAt fields (l.payloadSize fields) := by
  have hmem : ∀ s, s ∈ (l.extensionSlots.filter fun s => fields.contains s.name) ↔
      s ∈ l.extensionSlots ∧ fields.contains s.name = true := fun s => List.mem_filter
  rw [payloadSize]
  cases hmax : ((l.extensionSlots.filter fun s => fields.contains s.name).map Slot.stop).max? with
  | none =>
      have hnil := List.map_eq_nil_iff.mp (List.max?_eq_none_iff.mp hmax)
      refine .inr ⟨?_, rfl⟩
      intro s hs
      rw [← Bool.not_eq_true]
      exact List.filter_eq_nil_iff.mp hnil s hs
  | some n =>
      obtain ⟨hn, hle⟩ := List.max?_eq_some_iff.mp hmax
      obtain ⟨s, hs, hstop⟩ := List.mem_map.1 hn
      obtain ⟨hext, hgiven⟩ := (hmem s).1 hs
      refine .inl ⟨s, hext, hgiven, hstop, ?_⟩
      intro t ht hgiven
      exact hle t.stop (List.mem_map_of_mem ((hmem t).2 ⟨ht, hgiven⟩))

section Placement

variable {l : Layout} {base extensions : List Field} {fields : Fields} {n : Nat}

/-- **The fields within a payload are a front part**, which has all base fields. -/
theorem Placement.exists_front_of_endsAt (h : l.Placement base extensions)
    (hn : l.EndsAt fields n) :
    ∃ front rest, l.slots = place 0 (front ++ rest) ∧ FitsFrom 0 (front ++ rest) ∧
      n = exactSize front ∧ l.minSize ≤ n := by
  rw [EndsAt, h.extensionSlots_eq] at hn
  rcases hn with ⟨s, hs, -, hstop, -⟩ | ⟨-, rfl⟩
  · have hend := stop_of_mem_place h.fits_extensions hs
    have hexact := exactSize_of_mem_place h.fits_extensions hs
    have hshape := shape_of_mem_place hs
    obtain ⟨a, b, hsplit, hslot⟩ := exists_split_of_mem_place h.fits_extensions hs
    have hoffset : s.offset = l.minSize + exactSize a := congrArg Slot.offset hslot
    have hfields : base ++ extensions = base ++ (a ++ [s.field]) ++ b := by
      rw [hsplit, List.append_assoc, List.append_assoc, List.singleton_append]
    have hlast : exactSize [s.field] = (Shape.ofField s.field).exactSize := exactSize_cons _ []
    have hsize : n = exactSize (base ++ (a ++ [s.field])) := by
      rw [← hstop, hend, hoffset, hexact, hshape, exactSize_append, exactSize_append, hlast,
        ← h.minSize_eq, Nat.add_assoc]
    refine ⟨base ++ (a ++ [s.field]), b, ?_, ?_, hsize, ?_⟩
    · rw [h.slots_eq, hfields]
    · rw [← hfields]
      exact h.fits
    · rw [hsize, exactSize_append, ← h.minSize_eq]
      exact Nat.le_add_right _ _
  · exact ⟨base, extensions, h.slots_eq, h.fits, h.minSize_eq, Nat.le_refl _⟩

/-- Base fields end within every payload that can be read. -/
theorem Placement.stop_le_minSize (h : l.Placement base extensions) {s : Slot} (hs : s ∈ l.slots)
    (hbase : s.field.isExtension = false) : s.stop ≤ l.minSize := by
  have hmem : s ∈ l.baseSlots := List.mem_filter.2 ⟨hs, by rw [hbase]; rfl⟩
  rw [h.baseSlots_eq] at hmem
  have hstop := stop_le h.fits_base hmem
  rwa [Nat.zero_add, ← h.minSize_eq] at hstop

/-- All base fields are within the payload. -/
theorem Placement.minSize_le_of_endsAt (h : l.Placement base extensions) (hn : l.EndsAt fields n) :
    l.minSize ≤ n := by
  obtain ⟨front, rest, -, -, -, hmin⟩ := h.exists_front_of_endsAt hn
  exact hmin

/-- Every field that is given for a slot of the layout is within the payload. -/
theorem Placement.stop_le_of_endsAt (h : l.Placement base extensions) (hn : l.EndsAt fields n)
    {s : Slot} (hs : s ∈ l.slots) (hgiven : fields.contains s.name = true) : s.stop ≤ n := by
  by_cases hext : s.field.isExtension = true
  · have hmem : s ∈ l.extensionSlots := List.mem_filter.2 ⟨hs, hext⟩
    rcases hn with ⟨-, -, -, -, hle⟩ | ⟨hnone, -⟩
    · exact hle s hmem hgiven
    · rw [hnone s hmem] at hgiven
      exact absurd hgiven Bool.false_ne_true
  · exact (h.stop_le_minSize hs (eq_false_of_ne_true hext)).trans (h.minSize_le_of_endsAt hn)

end Placement

section Front

variable {l : Layout} {front rest : List Field}

/-- The slots within a front part are its slots. -/
theorem slotsWithin_front (h : l.slots = place 0 (front ++ rest))
    (hfits : FitsFrom 0 (front ++ rest)) : l.slotsWithin (exactSize front) = place 0 front := by
  have htake := takeWhile_place hfits
  rw [Nat.zero_add] at htake
  rw [slotsWithin, h]
  exact htake

/-- The slots of a front part are those that end within it. -/
theorem mem_place_front_iff (h : l.slots = place 0 (front ++ rest))
    (hfits : FitsFrom 0 (front ++ rest)) {s : Slot} :
    s ∈ place 0 front ↔ s ∈ l.slots ∧ s.stop ≤ exactSize front := by
  rw [h, place_append_of_fits hfits, List.mem_append]
  constructor
  · intro hs
    have hstop := stop_le hfits.left hs
    exact ⟨.inl hs, by omega⟩
  · rintro ⟨hs | hs, hstop⟩
    · exact hs
    · have hlow := le_offset hfits.right hs
      have hhigh := offset_lt_stop hfits.right hs
      omega

end Front

/-- **What is read from a payload**, slot by slot, if no two slots have the same name. -/
theorem get?_read {l : Layout} (hnames : (l.slots.map Slot.name).Nodup) {payload : Bytes}
    {s : Slot} (hs : s ∈ l.slotsWithin payload.length) :
    (l.read payload).get? s.name =
      some (s.shape.read (Bytes.slice s.offset s.size payload)) := by
  have hsub : ((l.slotsWithin payload.length).map Slot.name).Sublist (l.slots.map Slot.name) :=
    (List.takeWhile_sublist _).map _
  refine NameMap.get?_ofList_of_mem ?_ (List.mem_map.2 ⟨s, hs, rfl⟩)
  rw [List.map_map]
  exact hnames.sublist hsub

/-- A payload has the names of the slots that it wholly contains. -/
theorem contains_read_iff (l : Layout) (payload : Bytes) (name : String) :
    (l.read payload).contains name = true ↔
      ∃ s ∈ l.slotsWithin payload.length, s.name = name := by
  have hnone : (l.read payload).get? name = none ↔
      name ∉ (l.slotsWithin payload.length).map Slot.name := by
    rw [read, NameMap.get?_ofList_eq_none_iff, List.map_map]
    rfl
  rw [NameMap.contains, Option.isSome_iff_ne_none, ne_eq, hnone, not_not, List.mem_map]

end Layout

namespace Registry

open Layout

/-- **A payload is written over a front part of the fields**, which has all base fields and ends
where the given fields say. -/
theorem exists_encodePayload_eq_writeSlots {d : Dialect} {r : Registry} (hr : compile d = .ok r)
    {id : UInt32} {l : Layout} (hl : r.message? id = some l) (hfits : l.Fits) (fields : Fields) :
    ∃ front rest, l.slots = place 0 (front ++ rest) ∧ FitsFrom 0 (front ++ rest) ∧
      l.EndsAt fields (exactSize front) ∧ r.encodePayload id fields =
        r.writeSlots fields (place 0 front) (Bytes.zeros (exactSize front)) := by
  obtain ⟨base, extensions, hplace⟩ := placement_of_message? hr hl hfits
  have hends := l.endsAt_payloadSize fields
  obtain ⟨front, rest, hslots, hfront, hsize, -⟩ := hplace.exists_front_of_endsAt hends
  refine ⟨front, rest, hslots, hfront, hsize ▸ hends, ?_⟩
  simp only [encodePayload, hl]
  rw [hsize, slotsWithin_front hslots hfront]

/-- **What is written into a payload is read from it**, for a message that fits. The fields that are
given must be held by their slots; then writing succeeds, the payload ends where the last given
extension field does, and reading it succeeds and gives exactly the fields that end within it: each
given field is returned, and every other one is blank. -/
theorem encode_then_decode {d : Dialect} {r : Registry} (hr : compile d = .ok r) {id : UInt32}
    {l : Layout} (hl : r.message? id = some l) (hfits : l.Fits)
    (hnames : (l.slots.map Slot.name).Nodup)
    (hself : ∀ s ∈ l.slots, s.StandsForItself) {fields : Fields}
    (hfields : ∀ s ∈ l.slots, ∀ v, fields.get? s.name = some v → s.shape.Holds v) :
    ∃ payload decoded,
      r.encodePayload id fields = .ok payload ∧
      l.EndsAt fields payload.length ∧
      r.decodePayload id payload = .ok decoded ∧
      (∀ name, decoded.contains name = true ↔
        ∃ s ∈ l.slots, s.name = name ∧ s.stop ≤ payload.length) ∧
      ∀ s ∈ l.slots,
        (∀ v, fields.get? s.name = some v →
          ∃ w, decoded.get? s.name = some w ∧ s.shape.Returns v w) ∧
        (fields.get? s.name = none → s.stop ≤ payload.length →
          decoded.get? s.name = some s.shape.blank) := by
  obtain ⟨base, extensions, hplace⟩ := placement_of_message? hr hl hfits
  obtain ⟨front, rest, hslots, hfront, hends, hencode⟩ :=
    exists_encodePayload_eq_writeSlots hr hl hfits fields
  have hmem := fun {s : Slot} => mem_place_front_iff hslots hfront (s := s)
  have hwritten : ∀ s ∈ place 0 front, ∃ b, r.Written fields s b := fun s hs =>
    have hslot := (hmem.mp hs).1
    r.exists_written (hself s hslot) (fits_of_mem_place hfront.left hs) (size_of_mem_place hs)
      (hfields s hslot)
  obtain ⟨payload, hwrite, hlen, hall⟩ := exists_writeSlots [] hfront.left hwritten
  have hmin : l.minSize ≤ payload.length :=
    (hplace.minSize_le_of_endsAt hends).trans_eq hlen.symm
  have hpayload : l.slotsWithin payload.length = place 0 front := by
    rw [hlen, slotsWithin_front hslots hfront]
  refine ⟨payload, l.read payload, hencode.trans hwrite, hlen ▸ hends,
    (decodePayload_eq_ok_iff hl).2 ⟨hmin, rfl⟩, ?_, ?_⟩
  · intro name
    rw [contains_read_iff, hpayload]
    exact exists_congr fun s => by rw [hmem, hlen]; tauto
  · intro s hs
    have hread : s.stop ≤ payload.length → (l.read payload).get? s.name =
        some (s.shape.read (Bytes.slice s.offset s.size payload)) := fun hstop =>
      get?_read hnames (hpayload ▸ hmem.mpr ⟨hs, hlen ▸ hstop⟩)
    constructor
    · intro v hv
      have hstop := hplace.stop_le_of_endsAt hends hs (NameMap.contains_of_get? hv)
      have hwithin := hmem.mpr ⟨hs, hstop⟩
      exact ⟨_, hread (hlen ▸ hstop), returns_of_written (hself s hs)
        (fits_of_mem_place hfront.left hwithin) hv (hfields s hs v hv) (hall s hwithin)⟩
    · intro hnone hstop
      have hwithin := hmem.mpr ⟨hs, hlen ▸ hstop⟩
      rw [hread hstop]
      exact congrArg some (blank_of_written (fits_of_mem_place hfront.left hwithin)
        (size_of_mem_place hwithin) hnone (hall s hwithin))

end Registry

namespace Sample

/-- The layout of a text for the operator. -/
def statusTextLayout : Layout where
  id := 253
  name := "STATUSTEXT"
  slots := Layout.place 0 [
    { index := 0, wireType := .uint8, name := "severity", enumName? := some "MAV_SEVERITY",
      arrayLength := 0, isExtension := false },
    { index := 1, wireType := .char, name := "text", enumName? := none, arrayLength := 50,
      isExtension := false },
    { index := 2, wireType := .uint16, name := "id", enumName? := none, arrayLength := 0,
      isExtension := true },
    { index := 3, wireType := .uint8, name := "chunk_seq", enumName? := none, arrayLength := 0,
      isExtension := true }]
  crcExtra := 83
  maxSize := 54
  minSize := 51

/-- It is the layout in the compiled sample dialect. -/
theorem message?_statusText : registry.message? 253 = some statusTextLayout := by
  decide +kernel

/-- The layout fits. -/
theorem fits_statusText : statusTextLayout.Fits := by
  decide

/-- The base fields of a text for the operator: a severity, and a text filled up to 50 bytes. -/
def statusTextBytes : Bytes :=
  4 :: Bytes.fit 50 (Text.bytes "Höhe")

/-- A text that is not ASCII, with the last extension field but not the one before it. -/
def statusTextFields : Fields :=
  .ofList [("severity", .scalar (.int 4)), ("text", .scalar (.text "Höhe")),
    ("chunk_seq", .scalar (.uint 2))]

end Sample

/-- A text for the operator comes back; the extension field that was left out is zero. -/
theorem Registry.encode_then_decode_statusText :
    ∃ payload decoded,
      Sample.registry.encodePayload 253 Sample.statusTextFields = .ok payload ∧
      Sample.registry.decodePayload 253 payload = .ok decoded ∧
      decoded.get? "text" = some (.scalar (.text "Höhe")) ∧
      decoded.get? "id" = some (.scalar (.uint 0)) := by
  have hl : Sample.registry.message? 253 = some Sample.statusTextLayout := by decide +kernel
  have hfields : ∀ s ∈ Sample.statusTextLayout.slots, ∀ v,
      Sample.statusTextFields.get? s.name = some v → s.shape.Holds v := by
    intro s hs v hv
    simp only [Sample.statusTextLayout, Layout.place, List.mem_cons, List.not_mem_nil,
      or_false] at hs
    rcases hs with rfl | rfl | rfl | rfl
    · obtain rfl : Value.scalar (.int 4) = v := Option.some.inj hv
      exact .scalar ⟨4, rfl, by decide⟩
    · obtain rfl : Value.scalar (.text "Höhe") = v := Option.some.inj hv
      exact .text ⟨by decide, by decide⟩
    · have hnone : none = some v := hv
      cases hnone
    · obtain rfl : Value.scalar (.uint 2) = v := Option.some.inj hv
      exact .scalar ⟨2, rfl, by decide⟩
  obtain ⟨payload, decoded, hencode, hends, hdecode, -, hall⟩ :=
    encode_then_decode Sample.compile_dialect hl Sample.fits_statusText (by decide) (by decide)
      hfields
  refine ⟨payload, decoded, hencode, hdecode, ?_, ?_⟩
  · obtain ⟨w, hw, hreturns⟩ := (hall _ (List.getElem_mem (n := 1) (by decide))).1 _ rfl
    cases hreturns
    exact hw
  · have hstop : 53 ≤ payload.length := by
      rcases hends with ⟨-, -, -, -, hle⟩ | ⟨hnone, -⟩
      · have hlast : 54 ≤ payload.length := hle Sample.statusTextLayout.slots[3] (by decide) rfl
        omega
      · exact absurd (hnone Sample.statusTextLayout.slots[3] (by decide)) (by decide)
    exact (hall _ (List.getElem_mem (n := 2) (by decide))).2 rfl hstop

/-- A base field of a message that does not fit is neither written nor read, although it ends within
the payload. -/
theorem Registry.encode_then_decode_wrapped :
    compile { name := "wrapped", messages := [Sample.wrappedBase], enums := [] } =
        .ok (Sample.registryOf Sample.wrappedBase) ∧
      ((Sample.registryOf Sample.wrappedBase).message? 1).map
        (fun l => l.slots.map fun s => (s.name, s.stop)) =
          some [("a", 300), ("b", 9223372036854776108), ("c", 10)] ∧
      (Sample.registryOf Sample.wrappedBase).encodePayload 1
        (.ofList [("c", .scalar (.text "x"))]) = .ok (Bytes.zeros 10) ∧
      ((Sample.registryOf Sample.wrappedBase).decodePayload 1 (Bytes.zeros 10)).map
        (fun decoded => decoded.get? "c") = .ok none := by
  refine ⟨(Sample.compile_wrapped _ (by decide)).1, ?_⟩
  decide +kernel

end Mavlink
