import Mavlink.Proofs.Payload.Length
import Mavlink.Proofs.Payload.Tiling

/-!
# A payload is the concatenation of its fields

Fields are written over their slots in a payload of zero bytes, and the first fault stops. Nothing
of this shows in the outcome: a payload is what the fields within it are written as, each on its own
and one after the other, and a fault is that of the first field that cannot be written.

## Conventions

`Written` says what the bytes of a slot are, given the fields; `Refuses` says that there are none,
because a value is given that the slot rejects. For a placed slot exactly one of the two holds.

## Main results

* `written_or_refuses`: a slot is written, or refuses with a fault of its own.
* `written_or_refusesFirst`: the error is that of the first slot that refuses.
* `encodePayload_eq_ok_iff`: which payload is written.
* `encode_by_fields`: payloads and errors field by field, and what a change of one field changes.
-/

namespace Mavlink

namespace Registry

open Layout

variable {r : Registry} {fields : Fields} {s : Slot}

/-! ### Slots on their own -/

/-- A slot **rejects** a value with a fault: what the value stands for cannot be resolved, or it
resolves to a value that the slot's shape does not take. -/
inductive Rejects (r : Registry) (s : Slot) (v : Value) (fault : EncodeFault) : Prop
  | resolving : EnumNames.resolve r s v = .error fault → Rejects r s v fault
  | writing (w : Value) :
      EnumNames.resolve r s v = .ok w → s.shape.write w = .error fault → Rejects r s v fault

/-- Writing a slot fails exactly with the faults that it rejects the value with. -/
theorem writeSlot_eq_error_iff {v : Value} {fault : EncodeFault} :
    r.writeSlot s v = .error fault ↔ r.Rejects s v fault := by
  rw [writeSlot]
  constructor
  · intro h
    cases hresolve : EnumNames.resolve r s v with
    | error e =>
        rw [hresolve] at h
        obtain rfl := Except.error.inj h
        exact .resolving hresolve
    | ok w =>
        rw [hresolve] at h
        exact .writing w hresolve h
  · intro h
    cases h with
    | resolving h => rw [h]; rfl
    | writing w hresolve h => rw [hresolve]; exact h

/-- A slot **refuses** the fields with a fault: it rejects the value that is given for it. -/
def Refuses (r : Registry) (fields : Fields) (s : Slot) (fault : EncodeFault) : Prop :=
  ∃ v, fields.get? s.name = some v ∧ r.Rejects s v fault

/-- **A slot is written, or refuses** with a fault of its own. -/
theorem written_or_refuses (r : Registry) (fields : Fields) (hsize : s.size = s.shape.size) :
    (∃ b, r.Written fields s b) ∨ ∃ fault, r.Refuses fields s fault := by
  cases hv : fields.get? s.name with
  | none => exact .inl ⟨_, written_of_get?_none hv⟩
  | some v =>
      cases hwrite : r.writeSlot s v with
      | error fault => exact .inr ⟨fault, v, hv, writeSlot_eq_error_iff.1 hwrite⟩
      | ok b =>
          exact .inl ⟨b, written_of_get? hv hwrite ((length_of_writeSlot hwrite).trans hsize.symm)⟩

/-- A slot that refuses is not written. -/
theorem not_written_of_refuses {fault : EncodeFault} {b : Bytes}
    (hfault : r.Refuses fields s fault) : ¬ r.Written fields s b := by
  obtain ⟨v, hv, hrejects⟩ := hfault
  intro h
  rw [Written, hv] at h
  cases h.1.symm.trans (writeSlot_eq_error_iff.2 hrejects)

/-- What a slot is written with depends on the value that is given for it only. -/
theorem written_unique {fields' : Fields} {b b' : Bytes}
    (hsame : fields'.get? s.name = fields.get? s.name) (h : r.Written fields s b)
    (h' : r.Written fields' s b') : b' = b := by
  rw [Written] at h h'
  rw [hsame] at h'
  cases hv : fields.get? s.name with
  | none =>
      rw [hv] at h h'
      exact h'.trans h.symm
  | some v =>
      rw [hv] at h h'
      exact Except.ok.inj (h'.1.symm.trans h.1)

/-! ### The first fault -/

/-- An error is that of the **first refusal** among slots: those before it are written. -/
def RefusesFirst (r : Registry) (fields : Fields) (slots : List Slot) (e : PayloadError) : Prop :=
  ∃ before s after fault, slots = before ++ s :: after ∧ (∀ t ∈ before, ∃ b, r.Written fields t b) ∧
    r.Refuses fields s fault ∧ e = .encode s.name fault

/-- If the first slot refuses, it is the first one that does. -/
theorem RefusesFirst.head {fault : EncodeFault} (h : r.Refuses fields s fault)
    (rest : List Slot) : r.RefusesFirst fields (s :: rest) (.encode s.name fault) :=
  ⟨[], s, rest, fault, rfl, fun _ ht => absurd ht List.not_mem_nil, h, rfl⟩

/-- The first refusal stays the first behind a slot that is written. -/
theorem RefusesFirst.cons {slots : List Slot} {e : PayloadError} {b : Bytes}
    (hfirst : r.RefusesFirst fields slots e) (hb : r.Written fields s b) :
    r.RefusesFirst fields (s :: slots) e := by
  obtain ⟨before, t, after, fault, rfl, hbefore, hfault, he⟩ := hfirst
  exact ⟨s :: before, t, after, fault, rfl, List.forall_mem_cons.2 ⟨⟨b, hb⟩, hbefore⟩, hfault, he⟩

/-- The first slot that refuses is one that refuses. -/
theorem RefusesFirst.exists_refuses {slots : List Slot} {e : PayloadError}
    (h : r.RefusesFirst fields slots e) : ∃ s ∈ slots, ∃ fault, r.Refuses fields s fault := by
  obtain ⟨before, s, after, fault, rfl, -, hfault, -⟩ := h
  exact ⟨s, List.mem_append_right before List.mem_cons_self, fault, hfault⟩

/-- Writing stops at a slot that refuses. -/
theorem writeSlots_cons_of_refuses {fault : EncodeFault} (h : r.Refuses fields s fault)
    (rest : List Slot) (payload : Bytes) :
    r.writeSlots fields (s :: rest) payload = .error (.encode s.name fault) := by
  obtain ⟨v, hv, hrejects⟩ := h
  simp only [writeSlots, hv, writeSlot_eq_error_iff.2 hrejects]

/-- **All slots are written, or the first one that refuses** stops the writing. -/
theorem written_or_refusesFirst (r : Registry) (fields : Fields) (front : Bytes)
    {fs : List Field} (hfits : FitsFrom front.length fs) :
    (∀ s ∈ place front.length fs, ∃ b, r.Written fields s b) ∨
      ∃ e, r.RefusesFirst fields (place front.length fs) e ∧
        r.writeSlots fields (place front.length fs) (front ++ Bytes.zeros (exactSize fs)) =
          .error e := by
  -- As in `exists_writeSlots`, the finished bytes are in front and the others are still zero.
  induction fs generalizing front with
  | nil => exact .inl fun s hs => absurd hs List.not_mem_nil
  | cons f rest ih =>
      rw [place_cons_of_fits hfits, exactSize_cons, ← hfits.size_eq]
      rcases r.written_or_refuses fields (s := slotAt front.length f) rfl with ⟨b, hb⟩ | ⟨fault, hf⟩
      · have hlen : b.length = (Shape.ofField f).size := length_of_written hb
        have hnext : (front ++ b).length = front.length + (Shape.ofField f).size := by
          rw [List.length_append, hlen]
        have hrest := ih (front ++ b) (by rw [hnext, hfits.size_eq]; exact hfits.tail)
        rw [hnext] at hrest
        rcases hrest with hall | ⟨e, hfirst, hwrite⟩
        · exact .inl (List.forall_mem_cons.2 ⟨⟨b, hb⟩, hall⟩)
        · exact .inr ⟨e, hfirst.cons hb, (writeSlots_cons hb rfl _ _).trans hwrite⟩
      · exact .inr ⟨_, .head hf _, writeSlots_cons_of_refuses hf _ _⟩

/-! ### Whole payloads -/

section Compiled

variable {d : Dialect} {id : UInt32} {l : Layout}

/-- **A payload has in every slot what the slot is written with**, or it is the first refusal that
is reported. -/
theorem encodePayload_cases (hr : compile d = .ok r) (hl : r.message? id = some l)
    (hfits : l.Fits) (fields : Fields) :
    (∃ payload, r.encodePayload id fields = .ok payload ∧ l.EndsAt fields payload.length ∧
      ∀ s ∈ l.slots, s.stop ≤ payload.length →
        r.Written fields s (Bytes.slice s.offset s.size payload)) ∨
    ∃ size e, r.encodePayload id fields = .error e ∧ l.EndsAt fields size ∧
      r.RefusesFirst fields (l.slots.filter fun s => s.stop ≤ size) e := by
  obtain ⟨base, extensions, hplace⟩ := placement_of_message? hr hl hfits
  obtain ⟨front, rest, hslots, hfront, hends, hencode⟩ :=
    exists_encodePayload_eq_writeSlots hr hl hfits fields
  rw [hencode]
  rcases r.written_or_refusesFirst fields [] hfront.left with hall | ⟨e, hfirst, hwrite⟩
  · obtain ⟨payload, hwrite, hlen, hslices⟩ := exists_writeSlots [] hfront.left hall
    rw [← hlen] at hends
    refine .inl ⟨payload, hwrite, hends, ?_⟩
    intro s hs hstop
    exact hslices s ((mem_place_front_iff hslots hfront).2 ⟨hs, hlen ▸ hstop⟩)
  · refine .inr ⟨exactSize front, e, hwrite, hends, ?_⟩
    rw [← hplace.slotsWithin_eq_filter, slotsWithin_front hslots hfront]
    exact hfirst

/-- **Which payload is written**: the one that ends where the given fields say and has in every slot
what the slot is written with. -/
theorem encodePayload_eq_ok_iff (hr : compile d = .ok r) (hl : r.message? id = some l)
    (hfits : l.Fits) {payload : Bytes} :
    r.encodePayload id fields = .ok payload ↔
      l.EndsAt fields payload.length ∧ ∀ s ∈ l.slots, s.stop ≤ payload.length →
        r.Written fields s (Bytes.slice s.offset s.size payload) := by
  obtain ⟨base, extensions, hplace⟩ := placement_of_message? hr hl hfits
  rcases encodePayload_cases hr hl hfits fields with
    ⟨payload', h, hends', hwritten'⟩ | ⟨size, e, h, hends', hfirst⟩
  · rw [h, Except.ok.injEq]
    constructor
    · rintro rfl
      exact ⟨hends', hwritten'⟩
    · rintro ⟨hends, hwritten⟩
      have hlen := hends'.unique hends
      refine hplace.eq_of_slices_eq hends hlen fun s hs hstop => ?_
      exact written_unique rfl (hwritten s hs hstop) (hwritten' s hs (hlen ▸ hstop))
  · rw [h]
    constructor
    · intro h
      cases h
    · rintro ⟨hends, hwritten⟩
      obtain ⟨s, hs, fault, hfault⟩ := hfirst.exists_refuses
      obtain ⟨hs, hstop⟩ := mem_filter_stop_iff.1 hs
      exact absurd (hwritten s hs (hends'.unique hends ▸ hstop)) (not_written_of_refuses hfault)

/-- **An error is that of the first refusal.** -/
theorem refusesFirst_of_encodePayload (hr : compile d = .ok r) (hl : r.message? id = some l)
    (hfits : l.Fits) {e : PayloadError} (h : r.encodePayload id fields = .error e)
    {size : Nat} (hends : l.EndsAt fields size) :
    r.RefusesFirst fields (l.slots.filter fun s => s.stop ≤ size) e := by
  rcases encodePayload_cases hr hl hfits fields with
    ⟨payload, h', -⟩ | ⟨size', e', h', hends', hfirst⟩
  · cases h.symm.trans h'
  · obtain rfl := Except.error.inj (h.symm.trans h')
    obtain rfl := hends.unique hends'
    exact hfirst

/-- **A payload cannot be written** exactly if a slot within it refuses. -/
theorem exists_encodePayload_error_iff (hr : compile d = .ok r) (hl : r.message? id = some l)
    (hfits : l.Fits) {size : Nat} (hends : l.EndsAt fields size) :
    (∃ e, r.encodePayload id fields = .error e) ↔
      ∃ s ∈ l.slots, s.stop ≤ size ∧ ∃ fault, r.Refuses fields s fault := by
  constructor
  · rintro ⟨e, he⟩
    obtain ⟨s, hs, hfault⟩ := (refusesFirst_of_encodePayload hr hl hfits he hends).exists_refuses
    obtain ⟨hs, hstop⟩ := mem_filter_stop_iff.1 hs
    exact ⟨s, hs, hstop, hfault⟩
  · rintro ⟨s, hs, hstop, fault, hfault⟩
    cases h : r.encodePayload id fields with
    | error e => exact ⟨e, rfl⟩
    | ok payload =>
        obtain ⟨hends', hwritten⟩ := (encodePayload_eq_ok_iff hr hl hfits).1 h
        rw [hends.unique hends'] at hstop
        exact absurd (hwritten s hs hstop) (not_written_of_refuses hfault)

/-- **A payload is the concatenation** of what the slots within it are written with. -/
theorem exists_blocks_of_encodePayload (hr : compile d = .ok r) (hl : r.message? id = some l)
    (hfits : l.Fits) {payload : Bytes} (h : r.encodePayload id fields = .ok payload) :
    ∃ blocks, List.Forall₂ (r.Written fields)
        (l.slots.filter fun s => s.stop ≤ payload.length) blocks ∧ payload = blocks.flatten := by
  obtain ⟨base, extensions, hplace⟩ := placement_of_message? hr hl hfits
  obtain ⟨hends, hwritten⟩ := (encodePayload_eq_ok_iff hr hl hfits).1 h
  refine ⟨_, ?_, (hplace.flatten_slices hends).symm⟩
  rw [List.forall₂_map_right_iff, List.forall₂_same]
  intro s hs
  obtain ⟨hs, hstop⟩ := mem_filter_stop_iff.1 hs
  exact hwritten s hs hstop

/-- **A byte changes only with the value of a field in whose slot it is**, as long as the payload
ends at the same position. -/
theorem getElem?_encodePayload_eq (hr : compile d = .ok r) (hl : r.message? id = some l)
    (hfits : l.Fits) {changed : Fields} {payload payload' : Bytes}
    (h : r.encodePayload id fields = .ok payload)
    (h' : r.encodePayload id changed = .ok payload') (hlen : payload'.length = payload.length)
    {i : Nat} (hsame : ∀ s ∈ l.slots, s.offset ≤ i → i < s.stop →
      changed.get? s.name = fields.get? s.name) : payload'[i]? = payload[i]? := by
  obtain ⟨base, extensions, hplace⟩ := placement_of_message? hr hl hfits
  obtain ⟨hends, hwritten⟩ := (encodePayload_eq_ok_iff hr hl hfits).1 h
  obtain ⟨-, hwritten'⟩ := (encodePayload_eq_ok_iff hr hl hfits).1 h'
  by_cases hi : i < payload.length
  · obtain ⟨s, hs, hstop, hlow, hhigh⟩ := hplace.exists_slot_of_endsAt hends hi
    have hslice := written_unique (hsame s hs hlow hhigh) (hwritten s hs hstop)
      (hwritten' s hs (hlen ▸ hstop))
    rw [hplace.stop_eq hs] at hhigh
    exact Bytes.getElem?_eq_of_slice_eq hslice hlow hhigh
  · rw [List.getElem?_eq_none (by omega), List.getElem?_eq_none (by omega)]

/-- **A payload is written field by field**, for a message that fits. It ends where the last given
extension field does, so that every given field ends within it. It cannot be written exactly if a
field that ends within it refuses its value, and the error is that of the first such field.
Otherwise it is the concatenation of what the fields that end within it are written with, each for
its own value. If other values are given that end at the same position, a byte changes only if the
value of a field changes in whose slot it is: so if no other field's value changes, no byte outside
that one slot. -/
theorem encode_by_fields (hr : compile d = .ok r) (hl : r.message? id = some l)
    (hfits : l.Fits) (fields : Fields) :
    ∃ size, l.EndsAt fields size ∧
      (∀ s ∈ l.slots, fields.contains s.name = true → s.stop ≤ size) ∧
      ((∃ e, r.encodePayload id fields = .error e) ↔
        ∃ s ∈ l.slots, s.stop ≤ size ∧ ∃ fault, r.Refuses fields s fault) ∧
      (∀ e, r.encodePayload id fields = .error e →
        r.RefusesFirst fields (l.slots.filter fun s => s.stop ≤ size) e) ∧
      (∀ payload, r.encodePayload id fields = .ok payload →
        payload.length = size ∧
        ∃ blocks, List.Forall₂ (r.Written fields) (l.slots.filter fun s => s.stop ≤ size) blocks ∧
          payload = blocks.flatten) ∧
      ∀ changed payload payload', l.EndsAt changed size →
        r.encodePayload id fields = .ok payload → r.encodePayload id changed = .ok payload' →
        (∀ i, (∀ s ∈ l.slots, s.offset ≤ i → i < s.stop →
            changed.get? s.name = fields.get? s.name) → payload'[i]? = payload[i]?) ∧
        ∀ s ∈ l.slots, (∀ t ∈ l.slots, t ≠ s → changed.get? t.name = fields.get? t.name) →
          ∀ i, i < s.offset ∨ s.stop ≤ i → payload'[i]? = payload[i]? := by
  obtain ⟨base, extensions, hplace⟩ := placement_of_message? hr hl hfits
  have hends := l.endsAt_payloadSize fields
  refine ⟨l.payloadSize fields, hends, fun s hs hgiven => hplace.stop_le_of_endsAt hends hs hgiven,
    exists_encodePayload_error_iff hr hl hfits hends,
    fun e he => refusesFirst_of_encodePayload hr hl hfits he hends, ?_, ?_⟩
  · intro payload h
    have hlen := ((encodePayload_eq_ok_iff hr hl hfits).1 h).1.unique hends
    have hblocks := exists_blocks_of_encodePayload hr hl hfits h
    rw [hlen] at hblocks
    exact ⟨hlen, hblocks⟩
  · intro changed payload payload' hends' h h'
    have hlen : payload'.length = payload.length := by
      rw [((encodePayload_eq_ok_iff hr hl hfits).1 h').1.unique hends',
        hends.unique ((encodePayload_eq_ok_iff hr hl hfits).1 h).1]
    have hbyte := fun {i : Nat} => getElem?_encodePayload_eq hr hl hfits h h' hlen (i := i)
    refine ⟨fun i hsame => hbyte hsame, ?_⟩
    intro s hs hothers i hout
    refine hbyte fun t ht hlow hhigh => hothers t ht ?_
    rintro rfl
    omega

end Compiled

end Registry

/-- A text for the operator is the concatenation of its four fields, of which one is not given. -/
theorem Registry.encode_by_fields_statusText :
    ∃ payload blocks, Sample.registry.encodePayload 253 Sample.statusTextFields = .ok payload ∧
      payload.length = 54 ∧ payload = blocks.flatten ∧
      List.Forall₂ (Sample.registry.Written Sample.statusTextFields)
        Sample.statusTextLayout.slots blocks := by
  have hok : (Sample.registry.encodePayload 253 Sample.statusTextFields).isOk = true := by
    decide +kernel
  obtain ⟨size, hends, -, -, -, hblocks, -⟩ := encode_by_fields Sample.compile_dialect
    Sample.message?_statusText Sample.fits_statusText Sample.statusTextFields
  have hsize : size = 54 := hends.unique (Layout.endsAt_payloadSize _ _)
  have hall : (Sample.statusTextLayout.slots.filter fun s => s.stop ≤ 54) =
      Sample.statusTextLayout.slots := by decide
  cases h : Sample.registry.encodePayload 253 Sample.statusTextFields with
  | error e =>
      rw [h] at hok
      exact absurd hok Bool.false_ne_true
  | ok payload =>
      obtain ⟨hlen, blocks, hwritten, hflatten⟩ := hblocks payload h
      rw [hsize, hall] at hwritten
      exact ⟨payload, blocks, rfl, hlen.trans hsize, hflatten, hwritten⟩

/-- The only base field of a message that does not fit which ends within the payload is given, but
the payload is as if it were not. -/
theorem Registry.encode_by_fields_wrapped :
    compile { name := "wrapped", messages := [Sample.wrappedBase], enums := [] } =
        .ok (Sample.registryOf Sample.wrappedBase) ∧
      ((Sample.registryOf Sample.wrappedBase).message? 1).map (fun l =>
        (l.minSize, (l.slots.filter fun s => s.stop ≤ l.minSize).map Slot.name)) =
          some (10, ["c"]) ∧
      (Sample.registryOf Sample.wrappedBase).encodePayload 1
        (.ofList [("c", .scalar (.text "x"))]) = .ok (Bytes.zeros 10) ∧
      (Sample.registryOf Sample.wrappedBase).encodePayload 1 ∅ = .ok (Bytes.zeros 10) := by
  refine ⟨(Sample.compile_wrapped _ (by decide)).1, ?_⟩
  decide +kernel

end Mavlink
