import Mathlib.Data.List.Nodup
import Mavlink.Proofs.Checksum
import Mavlink.Proofs.Payload.RoundTrip

/-!
# Slots tile a payload

The slots of a layout follow each other without gaps. So slots end at ever greater positions, and
those that end within a payload are found from the front; every position below their end is in one
of them; and a payload cut into its slots is the concatenation of the pieces.

What is read from a slot depends on the bytes of the slot only, hence on the front of the payload
that ends with it.

## Main results

* `Placement.slotsWithin_eq_filter`: the slots within a payload are those that end within it.
* `Placement.exists_slot_of_endsAt`: every position of a payload is in one of them.
* `Placement.flatten_slices`: a payload is the concatenation of its slots.
* `Placement.contains_read_iff_stop_le`: a field is read exactly if it ends within the payload.
-/

namespace Mavlink

namespace Bytes

/-- A slice of the front is not changed by what follows the front. -/
theorem slice_append_of_le {start n : Nat} {front : Bytes} (h : start + n ≤ front.length)
    (back : Bytes) : slice start n (front ++ back) = slice start n front := by
  have hrest : n ≤ (front.drop start).length := by
    rw [List.length_drop]
    omega
  rw [slice, slice, List.drop_append_of_le_length (by omega), List.take_append_of_le_length hrest]

/-- A slice and what follows it are what follows its start. -/
theorem slice_append_drop (start n : Nat) (b : Bytes) :
    slice start n b ++ b.drop (start + n) = b.drop start := by
  rw [slice, ← List.drop_drop, List.take_append_drop]

end Bytes

namespace Layout

/-! ### Placed fields -/

/-- **The slots that end within a length are found from the front.** -/
theorem takeWhile_place_eq_filter {offset : Nat} {fields : List Field}
    (hfits : FitsFrom offset fields) (n : Nat) :
    (place offset fields).takeWhile (fun s => s.stop ≤ n) =
      (place offset fields).filter fun s => s.stop ≤ n := by
  induction fields generalizing offset with
  | nil => rfl
  | cons f rest ih =>
      have hend := stop_slotAt hfits
      rw [place_cons_of_fits hfits, List.takeWhile_cons, List.filter_cons, ih hfits.tail]
      by_cases h : (slotAt offset f).stop ≤ n
      · rw [decide_eq_true h, if_pos rfl, if_pos rfl]
      · have hrest : ∀ s ∈ place (offset + (Shape.ofField f).exactSize) rest, ¬ s.stop ≤ n := by
          intro s hs
          have hlow := le_offset hfits.tail hs
          have hhigh := offset_lt_stop hfits.tail hs
          omega
        rw [decide_eq_false h, if_neg Bool.false_ne_true, if_neg Bool.false_ne_true]
        exact (List.filter_eq_nil_iff.mpr fun s hs => by simpa using hrest s hs).symm

/-- **Slots follow each other**: each one ends before every later one starts. -/
theorem pairwise_place {offset : Nat} {fields : List Field} (hfits : FitsFrom offset fields) :
    (place offset fields).Pairwise fun s t => s.stop ≤ t.offset := by
  induction fields generalizing offset with
  | nil => exact .nil
  | cons f rest ih =>
      rw [place_cons_of_fits hfits]
      refine .cons (fun t ht => ?_) (ih hfits.tail)
      rw [stop_slotAt hfits]
      exact le_offset hfits.tail ht

/-- **Every position is in a slot.** -/
theorem exists_mem_place {offset i : Nat} {fields : List Field} (hfits : FitsFrom offset fields)
    (hlow : offset ≤ i) (hhigh : i < offset + exactSize fields) :
    ∃ s ∈ place offset fields, s.offset ≤ i ∧ i < s.stop := by
  induction fields generalizing offset with
  | nil => exact absurd hhigh (Nat.not_lt.mpr hlow)
  | cons f rest ih =>
      have hend := stop_slotAt hfits
      rw [place_cons_of_fits hfits]
      rw [exactSize_cons] at hhigh
      by_cases hin : i < offset + (Shape.ofField f).exactSize
      · exact ⟨slotAt offset f, List.mem_cons_self, hlow, hend ▸ hin⟩
      · obtain ⟨s, hs, hin⟩ := ih hfits.tail (Nat.le_of_not_lt hin) (by omega)
        exact ⟨s, List.mem_cons_of_mem _ hs, hin⟩

/-- **A string is the concatenation of its slots**, from where the first one starts. -/
theorem flatten_map_slice_place {offset : Nat} {fields : List Field} {b : Bytes}
    (hfits : FitsFrom offset fields) (h : b.length = offset + exactSize fields) :
    ((place offset fields).map fun s => Bytes.slice s.offset s.size b).flatten = b.drop offset := by
  induction fields generalizing offset with
  | nil =>
      have hle : b.length ≤ offset := Nat.le_of_eq h
      rw [List.drop_eq_nil_of_le hle]
      rfl
  | cons f rest ih =>
      rw [exactSize_cons, ← Nat.add_assoc] at h
      rw [place_cons_of_fits hfits, List.map_cons, List.flatten_cons, ih hfits.tail h,
        ← hfits.size_eq]
      exact Bytes.slice_append_drop offset (Shape.ofField f).size b

/-! ### Layouts -/

/-- A payload ends at one position only. -/
theorem EndsAt.unique {l : Layout} {fields : Fields} {m n : Nat} (hm : l.EndsAt fields m)
    (hn : l.EndsAt fields n) : m = n := by
  rcases hm with ⟨s, hs, hgiven, rfl, hle⟩ | ⟨hnone, rfl⟩
  · rcases hn with ⟨t, ht, hgiven', rfl, hle'⟩ | ⟨hnone, -⟩
    · exact Nat.le_antisymm (hle' s hs hgiven) (hle t ht hgiven')
    · exact absurd hgiven (ne_true_of_eq_false (hnone s hs))
  · rcases hn with ⟨t, ht, hgiven, -⟩ | ⟨-, rfl⟩
    · exact absurd hgiven (ne_true_of_eq_false (hnone t ht))
    · rfl

section Placement

variable {l : Layout} {base extensions : List Field} {n : Nat} {s : Slot}

/-- The slots up to a position are those of the layout that end by it. -/
theorem mem_filter_stop_iff :
    s ∈ l.slots.filter (fun s => s.stop ≤ n) ↔ s ∈ l.slots ∧ s.stop ≤ n := by
  rw [List.mem_filter, decide_eq_true_iff]

/-- **The slots within a payload** are those that end within it. -/
theorem Placement.slotsWithin_eq_filter (h : l.Placement base extensions) (n : Nat) :
    l.slotsWithin n = l.slots.filter fun s => s.stop ≤ n := by
  rw [slotsWithin, h.slots_eq]
  exact takeWhile_place_eq_filter h.fits n

/-- A slot is within a payload exactly if it ends by its end. -/
theorem Placement.mem_slotsWithin_iff (h : l.Placement base extensions) :
    s ∈ l.slotsWithin n ↔ s ∈ l.slots ∧ s.stop ≤ n := by
  rw [h.slotsWithin_eq_filter, mem_filter_stop_iff]

/-- Slots have the size of their shapes. -/
theorem Placement.size_eq (h : l.Placement base extensions) (hs : s ∈ l.slots) :
    s.size = s.shape.size := by
  rw [h.slots_eq] at hs
  exact size_of_mem_place hs

/-- Slots have the shapes of their fields. -/
theorem Placement.shape_eq (h : l.Placement base extensions) (hs : s ∈ l.slots) :
    s.shape = Shape.ofField s.field := by
  rw [h.slots_eq] at hs
  exact shape_of_mem_place hs

/-- **Slots end exactly** where their bytes do. -/
theorem Placement.stop_eq (h : l.Placement base extensions) (hs : s ∈ l.slots) :
    s.stop = s.offset + s.size := by
  rw [h.slots_eq] at hs
  exact stop_of_mem_place h.fits hs

/-- The bytes of a slot that ends within a payload. -/
theorem Placement.length_slice (h : l.Placement base extensions) (hs : s ∈ l.slots)
    {payload : Bytes} (hstop : s.stop ≤ payload.length) :
    (Bytes.slice s.offset s.size payload).length = s.size := by
  rw [h.stop_eq hs] at hstop
  exact Bytes.length_slice_of_le hstop

/-- Extension fields end behind the base fields. -/
theorem Placement.minSize_lt_stop (h : l.Placement base extensions) (hs : s ∈ l.extensionSlots) :
    l.minSize < s.stop := by
  rw [h.extensionSlots_eq] at hs
  exact Nat.lt_of_le_of_lt (le_offset h.fits_extensions hs) (offset_lt_stop h.fits_extensions hs)

/-- **Every position of a payload is in a slot within it.** -/
theorem Placement.exists_slot_of_endsAt (h : l.Placement base extensions) {fields : Fields}
    (hn : l.EndsAt fields n) {i : Nat} (hi : i < n) :
    ∃ s ∈ l.slots, s.stop ≤ n ∧ s.offset ≤ i ∧ i < s.stop := by
  obtain ⟨front, rest, hslots, hfits, rfl, -⟩ := h.exists_front_of_endsAt hn
  obtain ⟨s, hs, hin⟩ :=
    exists_mem_place hfits.left (Nat.zero_le i) (hi.trans_eq (Nat.zero_add _).symm)
  obtain ⟨hmem, hstop⟩ := (mem_place_front_iff hslots hfits).1 hs
  exact ⟨s, hmem, hstop, hin⟩

/-- **A payload is the concatenation of its slots.** -/
theorem Placement.flatten_slices (h : l.Placement base extensions) {fields : Fields}
    {payload : Bytes} (hends : l.EndsAt fields payload.length) :
    ((l.slots.filter fun s => s.stop ≤ payload.length).map fun s =>
      Bytes.slice s.offset s.size payload).flatten = payload := by
  obtain ⟨front, rest, hslots, hfits, hsize, -⟩ := h.exists_front_of_endsAt hends
  rw [← h.slotsWithin_eq_filter, hsize, slotsWithin_front hslots hfits]
  exact flatten_map_slice_place hfits.left (hsize.trans (Nat.zero_add _).symm)

/-- Payloads that end at one position and have the same slots are the same. -/
theorem Placement.eq_of_slices_eq (h : l.Placement base extensions) {fields : Fields}
    {payload payload' : Bytes} (hends : l.EndsAt fields payload.length)
    (hlen : payload'.length = payload.length)
    (hslices : ∀ s ∈ l.slots, s.stop ≤ payload.length →
      Bytes.slice s.offset s.size payload' = Bytes.slice s.offset s.size payload) :
    payload' = payload := by
  have hpieces : ((l.slots.filter fun s => s.stop ≤ payload.length).map fun s =>
      Bytes.slice s.offset s.size payload') =
      (l.slots.filter fun s => s.stop ≤ payload.length).map fun s =>
        Bytes.slice s.offset s.size payload := by
    refine List.map_congr_left fun s hs => ?_
    obtain ⟨hs, hstop⟩ := mem_filter_stop_iff.1 hs
    exact hslices s hs hstop
  have hsame := h.flatten_slices (hlen.symm ▸ hends)
  rw [hlen, hpieces, h.flatten_slices hends] at hsame
  exact hsame.symm

/-- **A field is read exactly if it ends within the payload**, if no two fields have the same
name. -/
theorem Placement.contains_read_iff_stop_le (h : l.Placement base extensions)
    (hnames : (l.slots.map Slot.name).Nodup) (payload : Bytes) (hs : s ∈ l.slots) :
    (l.read payload).contains s.name = true ↔ s.stop ≤ payload.length := by
  rw [contains_read_iff]
  constructor
  · rintro ⟨t, ht, hname⟩
    obtain ⟨hmem, hstop⟩ := h.mem_slotsWithin_iff.1 ht
    obtain rfl := List.inj_on_of_nodup_map hnames hmem hs hname
    exact hstop
  · intro hstop
    exact ⟨s, h.mem_slotsWithin_iff.2 ⟨hs, hstop⟩, rfl⟩

end Placement

end Layout

end Mavlink
