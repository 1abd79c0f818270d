import Mavlink.Proofs.Access.Payload
import Mavlink.Proofs.Payload.Concatenation
import Mavlink.Proofs.Text.Truncation

/-!
# Text fields keep what fits

A text that is longer than its field is cut off after as many bytes as the field has, on its own
and within the payload of a message. So reading the field gives the whole text if it fits, and
otherwise its beginning, with a replacement character at the end if the cut severs a character.

## Main results

* `Registry.decode_text_of_encode`: a text in a payload is read as its field reads it.
* `Field.text_is_cut`: what is read of a text that was written.
-/

namespace Mavlink

namespace Registry

open Layout

/-- **A text in a payload** is written and read as its field alone, if the message fits, no two of
its fields have the same name, and whatever else is given can be written. -/
theorem decode_text_of_encode {d : Dialect} {r : Registry} (hr : compile d = .ok r) {id : UInt32}
    {l : Layout} (hl : r.message? id = some l) (hfits : l.Fits)
    (hnames : (l.slots.map Slot.name).Nodup) {s : Slot} (hs : s ∈ l.slots) {n : Nat}
    (hshape : s.shape = .text n) {fields : Fields} {text : String}
    (htext : fields.get? s.name = some (.scalar (.text text)))
    (hothers : ∀ t ∈ l.slots, t.name ≠ s.name → ∃ b, r.Written fields t b) :
    ∃ payload decoded, r.encodePayload id fields = .ok payload ∧
      r.decodePayload id payload = .ok decoded ∧
      decoded.get? s.name = some (s.shape.read (Bytes.fit n (Text.bytes text))) := by
  obtain ⟨base, extensions, hplace⟩ := placement_of_message? hr hl hfits
  have hsize : s.size = n := by
    rw [hplace.size_eq hs, hshape]
    rfl
  have hwritten : r.Written fields s (Bytes.fit n (Text.bytes text)) :=
    written_of_get? htext (r.writeSlot_text hshape text) ((Bytes.length_fit _ _).trans hsize.symm)
  have hall : ∀ t ∈ l.slots, ∃ b, r.Written fields t b := by
    intro t ht
    by_cases hname : t.name = s.name
    · obtain rfl := List.inj_on_of_nodup_map hnames ht hs hname
      exact ⟨_, hwritten⟩
    · exact hothers t ht hname
  obtain ⟨payload, hencode⟩ := exists_encodePayload hr hl hfits hall
  obtain ⟨hends, hslices⟩ := (encodePayload_eq_ok_iff hr hl hfits).1 hencode
  have hmin := hplace.minSize_le_of_endsAt hends
  have hstop := hplace.stop_le_of_endsAt hends hs (NameMap.contains_of_get? htext)
  refine ⟨payload, l.read payload, hencode, (decodePayload_eq_ok_iff hl).2 ⟨hmin, rfl⟩, ?_⟩
  rw [get?_read hnames (hplace.mem_slotsWithin_iff.2 ⟨hs, hstop⟩),
    written_unique rfl hwritten (hslices s hs hstop)]

end Registry

namespace Field

/-- **What is read of a text that was written.** Every text without the zero character can be
written into a text field, and what is read is the text cut after as many bytes as the field has:
the whole text if it fits, and its beginning unless the cut severs a character other than the
replacement character. So it is within the payloads of every message that has the field, as long as
the message fits, no two of its fields have the same name, and what is given for the others can be
written. -/
theorem text_is_cut {f : Field} (hchar : f.wireType = .char) (harray : f.isArray = true)
    {text : String} (hzero : '\x00' ∉ text.toList) :
    ∃ b kept, (Shape.ofField f).WritesTo (.scalar (.text text)) (.ok b) ∧
      (Shape.ofField f).ReadsAs b (.scalar (.text kept)) ∧
      Text.Cut f.arrayLength text kept ∧
      (text.utf8ByteSize ≤ f.arrayLength → kept = text) ∧
      (kept.toList <+: text.toList ↔
        ∀ c, Text.Severs f.arrayLength text c → c = Text.replacement) ∧
      ∀ {d r id l s fields}, Registry.compile d = .ok r → r.message? id = some l → l.Fits →
        (l.slots.map Slot.name).Nodup → s ∈ l.slots → s.field = f →
        fields.get? s.name = some (.scalar (.text text)) →
        (∀ t ∈ l.slots, t.name ≠ s.name → ∃ b, r.Written fields t b) →
        ∃ payload decoded, r.encodePayload id fields = .ok payload ∧
          r.decodePayload id payload = .ok decoded ∧
          decoded.get? s.name = some (.scalar (.text kept)) := by
  have hshape : Shape.ofField f = .text f.arrayLength := by
    rw [Shape.ofField, if_neg (of_decide_eq_true harray), if_pos hchar]
  obtain ⟨kept, hcut⟩ := Text.exists_cut f.arrayLength text
  have hread : Text.ofField (Bytes.fit f.arrayLength (Text.bytes text)) = kept :=
    (Text.ofField_fit_iff hzero).2 hcut
  have hvalue : (Shape.text f.arrayLength).read (Bytes.fit f.arrayLength (Text.bytes text)) =
      .scalar (.text kept) := by
    rw [Shape.read, hread]
  refine ⟨Bytes.fit f.arrayLength (Text.bytes text), kept, ?_, ?_, hcut, ?_, hcut.isPrefix_iff, ?_⟩
  · rw [hshape]
    exact Shape.writesTo_iff.2 rfl
  · rw [hshape, ← hvalue]
    exact Shape.readsAs_read (Bytes.length_fit _ _)
  · intro hshort
    exact hcut.unique (.whole hshort)
  · intro d r id l s fields hr hl hfits hnames hs hfield htext hothers
    obtain ⟨base, extensions, hplace⟩ := Registry.placement_of_message? hr hl hfits
    have hslot : s.shape = .text f.arrayLength := by
      rw [hplace.shape_eq hs, hfield, hshape]
    obtain ⟨payload, decoded, hencode, hdecode, hget⟩ :=
      Registry.decode_text_of_encode hr hl hfits hnames hs hslot htext hothers
    rw [hslot, hvalue] at hget
    exact ⟨payload, decoded, hencode, hdecode, hget⟩

end Field

namespace Sample

/-- A text for the operator that takes one byte more than its field, and ends with a character of
two bytes. -/
def longText : String :=
  "aééééééééééééééééééééééééé"

end Sample

/-- The last character of the long text is severed. -/
theorem Field.text_is_cut_longText : ∃ payload decoded,
    Sample.registry.encodePayload 253 (.ofList [("text", .scalar (.text Sample.longText))]) =
      .ok payload ∧
    Sample.registry.decodePayload 253 payload = .ok decoded ∧
    decoded.get? "text" = some (.scalar (.text "aéééééééééééééééééééééééé\uFFFD")) := by
  have hothers : ∀ t ∈ Sample.statusTextLayout.slots, t.name ≠ "text" → ∃ b,
      Sample.registry.Written (.ofList [("text", .scalar (.text Sample.longText))]) t b := by
    intro t ht hname
    simp only [Sample.statusTextLayout, Layout.place, List.mem_cons, List.not_mem_nil,
      or_false] at ht
    rcases ht with rfl | rfl | rfl | rfl
    · exact ⟨_, Registry.written_of_get?_none rfl⟩
    · exact absurd rfl hname
    · exact ⟨_, Registry.written_of_get?_none rfl⟩
    · exact ⟨_, Registry.written_of_get?_none rfl⟩
  have hslot : Sample.statusTextLayout.slots[1] ∈ Sample.statusTextLayout.slots :=
    List.getElem_mem (by decide)
  have hzero : '\x00' ∉ Sample.longText.toList := by decide
  obtain ⟨b, kept, -, -, hcut, -, -, hpayload⟩ :=
    text_is_cut (f := Sample.statusTextLayout.slots[1].field) rfl rfl hzero
  obtain rfl := hcut.unique (@Text.Cut.inside 50 Sample.longText "aéééééééééééééééééééééééé" 'é' ""
    (by decide) (by decide) (by decide))
  exact hpayload Sample.compile_dialect Sample.message?_statusText Sample.fits_statusText
    (by decide) hslot rfl rfl hothers

/-- A field of one byte keeps no beginning of a text that starts with a character of two bytes. -/
theorem Field.text_is_cut_not_prefix : ∃ b, (Shape.text 1).WritesTo (.scalar (.text "é")) (.ok b) ∧
    (Shape.text 1).ReadsAs b (.scalar (.text "\uFFFD")) ∧ '\x00' ∉ "é".toList ∧
    ¬ "\uFFFD".toList <+: "é".toList := by
  have hcut : Text.Cut 1 "é" "\uFFFD" := @Text.Cut.inside 1 "é" "" 'é' ""
    (by decide) (by decide) (by decide)
  have hread : (Shape.text 1).read (Bytes.fit 1 (Text.bytes "é")) = .scalar (.text "\uFFFD") :=
    congrArg (fun s => Value.scalar (.text s)) ((Text.ofField_fit_iff (by decide)).2 hcut)
  exact ⟨_, Shape.writesTo_iff.2 rfl, hread ▸ Shape.readsAs_read (Bytes.length_fit _ _),
    by decide, by decide⟩

end Mavlink
