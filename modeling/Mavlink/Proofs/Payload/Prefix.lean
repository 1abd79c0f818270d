import Mavlink.Proofs.Payload.Tiling

/-!
# Reading the front of a payload

A field is read from its own bytes, so what is read from the front of a payload stays as it is when
more bytes follow: there may be more fields then, and these are extension fields, because the base
fields have to be there from the start. No field lies behind the greatest length of the payload, so
whatever follows it is not read at all.

## Main results

* `Placement.get?_read_append`: fields of the front are read from the whole as well.
* `exists_decodePayload_append`: what more bytes behind a payload add to its fields.
* `Placement.read_take_maxSize`, `decodePayload_take_maxSize`: nothing is read behind the greatest
  length.
* `decode_longer`: a longer payload only adds extension fields.
-/

namespace Mavlink

namespace Layout

section Placement

variable {l : Layout} {base extensions : List Field} {front : Bytes}

/-- **A field of the front is read from the whole as well**, if no two fields have the same name. -/
theorem Placement.get?_read_append (h : l.Placement base extensions)
    (hnames : (l.slots.map Slot.name).Nodup) {name : String} {v : Value}
    (hv : (l.read front).get? name = some v) (back : Bytes) :
    (l.read (front ++ back)).get? name = some v := by
  obtain ⟨s, hs, rfl⟩ := (contains_read_iff l front name).1 (NameMap.contains_of_get? hv)
  obtain ⟨hmem, hstop⟩ := h.mem_slotsWithin_iff.1 hs
  have hwhole : s ∈ l.slotsWithin (front ++ back).length := by
    refine h.mem_slotsWithin_iff.2 ⟨hmem, ?_⟩
    rw [List.length_append]
    omega
  rw [h.stop_eq hmem] at hstop
  rw [get?_read hnames hwhole, Bytes.slice_append_of_le hstop, ← get?_read hnames hs, hv]

/-- **What follows the last field is not read.** -/
theorem Placement.read_append (h : l.Placement base extensions)
    (hall : ∀ s ∈ l.slots, s.stop ≤ front.length) (back : Bytes) :
    l.read (front ++ back) = l.read front := by
  have hevery : ∀ n, front.length ≤ n → l.slotsWithin n = l.slots := by
    intro n hn
    rw [h.slotsWithin_eq_filter, List.filter_eq_self]
    exact fun s hs => decide_eq_true ((hall s hs).trans hn)
  have hlen : front.length ≤ (front ++ back).length := by
    rw [List.length_append]
    omega
  rw [read, read, hevery _ hlen, hevery _ (Nat.le_refl _)]
  congr 1
  refine List.map_congr_left fun s hs => ?_
  have hstop := hall s hs
  rw [h.stop_eq hs] at hstop
  rw [Bytes.slice_append_of_le hstop]

end Placement

/-- **Nothing is read behind the greatest length** of a payload. -/
theorem Placement.read_take_maxSize {l : Layout} {base extensions : List Field}
    (h : l.Placement base extensions) (payload : Bytes) :
    l.read (payload.take l.maxSize) = l.read payload := by
  rcases Nat.le_total payload.length l.maxSize with hle | hle
  · rw [List.take_of_length_le hle]
  · have hlen : (payload.take l.maxSize).length = l.maxSize := List.length_take_of_le hle
    have hall : ∀ s ∈ l.slots, s.stop ≤ (payload.take l.maxSize).length := fun s hs =>
      hlen.symm ▸ h.stop_le_maxSize hs
    have hfront := h.read_append hall (payload.drop l.maxSize)
    rw [List.take_append_drop] at hfront
    exact hfront.symm

end Layout

namespace Registry

open Layout

section Compiled

variable {d : Dialect} {r : Registry} {id : UInt32} {l : Layout} {payload : Bytes}

/-- **More bytes behind a payload** leave its fields as they are and add extension fields. -/
theorem exists_decodePayload_append (hr : compile d = .ok r) (hl : r.message? id = some l)
    (hfits : l.Fits) (hnames : (l.slots.map Slot.name).Nodup) {decoded : Fields}
    (hdecode : r.decodePayload id payload = .ok decoded) (more : Bytes) :
    ∃ longer, r.decodePayload id (payload ++ more) = .ok longer ∧
      (∀ name v, decoded.get? name = some v → longer.get? name = some v) ∧
      ∀ name, longer.contains name = true → decoded.contains name = false →
        ∃ s ∈ l.extensionSlots, s.name = name := by
  obtain ⟨base, extensions, hplace⟩ := placement_of_message? hr hl hfits
  obtain ⟨hmin, rfl⟩ := (decodePayload_eq_ok_iff hl).1 hdecode
  have hlonger : l.minSize ≤ (payload ++ more).length := by
    rw [List.length_append]
    omega
  refine ⟨_, (decodePayload_eq_ok_iff hl).2 ⟨hlonger, rfl⟩,
    fun name v hv => hplace.get?_read_append hnames hv more, ?_⟩
  intro name hgiven hnone
  obtain ⟨s, hs, rfl⟩ := (contains_read_iff l _ name).1 hgiven
  have hmem := (hplace.mem_slotsWithin_iff.1 hs).1
  refine ⟨s, List.mem_filter.2 ⟨hmem, ?_⟩, rfl⟩
  by_contra hbase
  have hstop := hplace.stop_le_minSize hmem (eq_false_of_ne_true hbase)
  rw [(hplace.contains_read_iff_stop_le hnames payload hmem).2 (hstop.trans hmin)] at hnone
  contradiction

/-- **Nothing behind the greatest length** of a payload has a say in what is read. -/
theorem decodePayload_take_maxSize (hr : compile d = .ok r) (hl : r.message? id = some l)
    (hfits : l.Fits) (payload : Bytes) :
    r.decodePayload id (payload.take l.maxSize) = r.decodePayload id payload := by
  obtain ⟨base, extensions, hplace⟩ := placement_of_message? hr hl hfits
  have hsizes := hplace.minSize_le_maxSize
  simp only [decodePayload, hl]
  rw [hplace.read_take_maxSize payload, List.length_take]
  by_cases hlen : payload.length < l.minSize
  · have hmin : min l.maxSize payload.length = payload.length := by omega
    rw [hmin]
  · rw [if_neg hlen, if_neg (by omega)]

/-- **A longer payload only adds fields**, for a message that fits. No two fields have the same
name. If a payload can be read, then so it can with more bytes behind it: every field that was there
has the same value, and every further one is an extension field. Of no payload more than the
greatest length is read. A payload cannot be read exactly if it is shorter than all base fields
together. -/
theorem decode_longer (hr : compile d = .ok r) (hl : r.message? id = some l) (hfits : l.Fits)
    (hnames : (l.slots.map Slot.name).Nodup) (payload : Bytes) :
    (∀ decoded, r.decodePayload id payload = .ok decoded → ∀ more,
      ∃ longer, r.decodePayload id (payload ++ more) = .ok longer ∧
        (∀ name v, decoded.get? name = some v → longer.get? name = some v) ∧
        ∀ name, longer.contains name = true → decoded.contains name = false →
          ∃ s ∈ l.extensionSlots, s.name = name) ∧
      r.decodePayload id (payload.take l.maxSize) = r.decodePayload id payload ∧
      ((∃ e, r.decodePayload id payload = .error e) ↔ payload.length < l.minSize) :=
  ⟨fun _ hdecode more => exists_decodePayload_append hr hl hfits hnames hdecode more,
    decodePayload_take_maxSize hr hl hfits payload, exists_decodePayload_error_iff hl⟩

end Compiled

end Registry

/-- Two bytes behind the base fields add the first extension field. -/
theorem Registry.decode_longer_statusText :
    ∃ short longer, Sample.registry.decodePayload 253 Sample.statusTextBytes = .ok short ∧
      Sample.registry.decodePayload 253 (Sample.statusTextBytes ++ [1, 2]) = .ok longer ∧
      short.get? "id" = none ∧ longer.get? "id" = some (.scalar (.uint 513)) ∧
      longer.get? "text" = some (.scalar (.text "Höhe")) := by
  have hl := Sample.message?_statusText
  obtain ⟨hmore, -, -⟩ := decode_longer Sample.compile_dialect hl Sample.fits_statusText (by decide)
    Sample.statusTextBytes
  have hshort : Sample.registry.decodePayload 253 Sample.statusTextBytes = .ok _ :=
    (decodePayload_eq_ok_iff hl).2 ⟨by decide, rfl⟩
  obtain ⟨longer, hlonger, hkept, -⟩ := hmore _ hshort [1, 2]
  have htext : (Sample.statusTextLayout.read Sample.statusTextBytes).get? "text" =
      some (.scalar (.text "Höhe")) := by decide +kernel
  refine ⟨_, longer, hshort, hlonger, by decide +kernel, ?_, hkept "text" _ htext⟩
  obtain ⟨-, rfl⟩ := (decodePayload_eq_ok_iff hl).1 hlonger
  decide +kernel

/-- A base field of a message that does not fit is read behind the greatest length. -/
theorem Registry.decode_longer_wrapped :
    compile { name := "wrapped", messages := [Sample.wrappedBase], enums := [] } =
        .ok (Sample.registryOf Sample.wrappedBase) ∧
      ((Sample.registryOf Sample.wrappedBase).message? 1).map
        (fun l => (l.maxSize, l.extensionSlots)) = some (10, []) ∧
      ((Sample.registryOf Sample.wrappedBase).decodePayload 1 ((Bytes.zeros 300).take 10)).map
        (fun decoded => decoded.get? "a") = .ok none ∧
      ((Sample.registryOf Sample.wrappedBase).decodePayload 1 (Bytes.zeros 300)).map
        (fun decoded => decoded.get? "a") = .ok (some (.scalar (.text ""))) := by
  refine ⟨(Sample.compile_wrapped _ (by decide)).1, ?_⟩
  decide +kernel

end Mavlink
