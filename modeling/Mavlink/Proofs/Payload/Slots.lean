import Mavlink.Payload.Codec
import Mavlink.Proofs.Dialect.Layout
import Mavlink.Proofs.Payload.Shape

/-!
# Fields in their slots

Writing goes from slot to slot, each time over zero bytes. As the slots of a layout follow each
other without gaps, the bytes before a slot are finished when the slot is written, and those behind
it are still zero: this is the invariant of `exists_writeSlots`, with the finished bytes as `front`.
In the end every slot has the bytes of its own field, and reading it returns the field.

## Main results

* `writeSlots_cons`: what writing one slot does.
* `exists_writeSlots`: what writing all slots does.
* `returns_of_written`, `blank_of_written`: what reading a slot gives.
-/

namespace Mavlink

namespace Bytes

/-- Writing at the end of the finished bytes. -/
theorem overwrite_zeros (front new : Bytes) (n : Nat) :
    overwrite front.length new (front ++ zeros (new.length + n)) = (front ++ new) ++ zeros n := by
  have hdrop : (front ++ zeros (new.length + n)).drop (front.length + new.length) = zeros n := by
    rw [zeros_add, ← List.append_assoc, List.drop_left']
    rw [List.length_append, length_zeros]
  rw [overwrite, List.take_left, hdrop]

/-- A slice takes the part between what stands before it and what stands behind it. -/
theorem slice_append (front mid back : Bytes) :
    slice front.length mid.length (front ++ mid ++ back) = mid := by
  rw [slice, List.append_assoc, List.drop_left, List.take_left]

end Bytes

/-! ### Values that names do not change -/

/-- Whether an enumeration would replace texts in the values that the shape holds. -/
def Shape.replacesTexts : Shape → Bool
  | .array _ _ | .scalar .char => true
  | _ => false

/-- A slot **stands for itself** if it is neither an array nor a character that refers to an
enumeration. -/
def Slot.StandsForItself (s : Slot) : Prop :=
  s.shape.replacesTexts = true → s.field.enumName? = none

instance : DecidablePred Slot.StandsForItself := fun s =>
  inferInstanceAs (Decidable (s.shape.replacesTexts = true → s.field.enumName? = none))

/-- An integer stands for itself, whether the enumeration is known or not. -/
theorem EnumNames.integer_eq (r : Registry) (enumName : String) (v : Int64) :
    integer r enumName v = v := by
  rw [integer]
  split <;> rfl

/-- A value of a text field stands for itself. -/
theorem EnumNames.resolveIn_text (r : Registry) (enumName : String) (length : Nat) (v : Scalar) :
    resolveIn r enumName (.text length) (.scalar v) = .ok (.scalar v) := by
  cases v with
  | int n => rw [resolveIn, integer_eq]
  | _ => rfl

/-- A scalar that is no name stands for itself. -/
theorem EnumNames.resolveIn_scalar (r : Registry) (enumName : String) (t : WireType) {v : Scalar}
    (hv : ∀ name, v ≠ .text name) :
    resolveIn r enumName (.scalar t) (.scalar v) = .ok (.scalar v) := by
  cases v with
  | int n => rw [resolveIn, integer_eq]
  | text name => exact absurd rfl (hv name)
  | _ => rfl

/-- **Held values are not changed by an enumeration.** -/
theorem EnumNames.resolve_of_holds (r : Registry) {s : Slot} (hs : s.StandsForItself) {v : Value}
    (hv : s.shape.Holds v) : resolve r s v = .ok v := by
  rw [resolve]
  split
  · rfl
  · next enumName henum =>
    have hnone : s.field.enumName? ≠ none := henum ▸ Option.some_ne_none enumName
    cases hshape : s.shape with
    | array t n => exact absurd (hs (congrArg Shape.replacesTexts hshape)) hnone
    | text n =>
        rw [hshape] at hv
        cases hv
        exact resolveIn_text r enumName n _
    | scalar t =>
        rw [hshape] at hv
        cases hv with
        | scalar hv =>
            refine resolveIn_scalar r enumName t ?_
            rintro name rfl
            obtain rfl := WireType.eq_char_of_holds_text hv
            exact hnone (hs (congrArg Shape.replacesTexts hshape))

namespace Registry

/-- **A held value is written into its slot**, and returned when the slot is read. -/
theorem exists_writeSlot (r : Registry) {s : Slot} (hs : s.StandsForItself)
    (hfits : s.shape.Fits) {v : Value} (hv : s.shape.Holds v) :
    ∃ b, r.writeSlot s v = .ok b ∧ b.length = s.shape.size ∧
      s.shape.Returns v (s.shape.read b) := by
  obtain ⟨b, hwrite, hlen, hreturns⟩ := Shape.exists_write_of_holds hfits hv
  refine ⟨b, ?_, hlen, hreturns⟩
  rw [writeSlot, EnumNames.resolve_of_holds r hs hv]
  exact hwrite

/-- A text can be written into every text slot. -/
theorem writeSlot_text (r : Registry) {s : Slot} {n : Nat} (hshape : s.shape = .text n)
    (text : String) :
    r.writeSlot s (.scalar (.text text)) = .ok (Bytes.fit n (Text.bytes text)) := by
  have hresolve : EnumNames.resolve r s (.scalar (.text text)) = .ok (.scalar (.text text)) := by
    rw [EnumNames.resolve, hshape]
    cases s.field.enumName? <;> rfl
  rw [writeSlot, hresolve, hshape]
  rfl

/-- A slot is **written** with the bytes of its field, or with zero bytes if the field is not
given. -/
def Written (r : Registry) (fields : Fields) (s : Slot) (b : Bytes) : Prop :=
  match fields.get? s.name with
  | none => b = Bytes.zeros s.size
  | some v => r.writeSlot s v = .ok b ∧ b.length = s.size

/-- A written slot has its own length. -/
theorem length_of_written {r : Registry} {fields : Fields} {s : Slot} {b : Bytes}
    (h : r.Written fields s b) : b.length = s.size := by
  rw [Written] at h
  split at h
  · rw [h]
    exact Bytes.length_zeros _
  · exact h.2

/-- A slot is written with the bytes of the value that is given for it. -/
theorem written_of_get? {r : Registry} {fields : Fields} {s : Slot} {v : Value} {b : Bytes}
    (hv : fields.get? s.name = some v) (hb : r.writeSlot s v = .ok b) (hlen : b.length = s.size) :
    r.Written fields s b := by
  rw [Written, hv]
  exact ⟨hb, hlen⟩

/-- A slot that no value is given for is written with zero bytes. -/
theorem written_of_get?_none {r : Registry} {fields : Fields} {s : Slot}
    (hv : fields.get? s.name = none) : r.Written fields s (Bytes.zeros s.size) := by
  rw [Written, hv]

/-- Every slot can be written, if it holds the value that is given for it. -/
theorem exists_written (r : Registry) {fields : Fields} {s : Slot} (hself : s.StandsForItself)
    (hfits : s.shape.Fits) (hsize : s.size = s.shape.size)
    (hfields : ∀ v, fields.get? s.name = some v → s.shape.Holds v) :
    ∃ b, r.Written fields s b := by
  simp only [Written]
  cases hv : fields.get? s.name with
  | none => exact ⟨_, rfl⟩
  | some v =>
      obtain ⟨b, hwrite, hlen, -⟩ := r.exists_writeSlot hself hfits (hfields v hv)
      exact ⟨b, hwrite, hlen.trans hsize.symm⟩

/-- **Writing one slot** finishes its bytes and goes on with the slots behind it. -/
theorem writeSlots_cons {r : Registry} {fields : Fields} {s : Slot} {b front : Bytes}
    (hb : r.Written fields s b) (hfront : front.length = s.offset) (rest : List Slot) (n : Nat) :
    r.writeSlots fields (s :: rest) (front ++ Bytes.zeros (s.size + n)) =
      r.writeSlots fields rest ((front ++ b) ++ Bytes.zeros n) := by
  have hlen := length_of_written hb
  rw [Written] at hb
  rw [writeSlots]
  split
  · next hnone =>
    rw [hnone] at hb
    rw [hb, Bytes.zeros_add, List.append_assoc]
  · next v hsome =>
    rw [hsome] at hb
    rw [hb.1, ← hfront, ← hlen, ← Bytes.overwrite_zeros]

/-- **Writing all slots** finishes the bytes of each. -/
theorem exists_writeSlots {r : Registry} {fields : Fields} {fs : List Field} (front : Bytes)
    (hfits : Layout.FitsFrom front.length fs)
    (h : ∀ s ∈ Layout.place front.length fs, ∃ b, r.Written fields s b) :
    ∃ back, r.writeSlots fields (Layout.place front.length fs)
        (front ++ Bytes.zeros (Layout.exactSize fs)) = .ok (front ++ back) ∧
      back.length = Layout.exactSize fs ∧
      ∀ s ∈ Layout.place front.length fs,
        r.Written fields s (Bytes.slice s.offset s.size (front ++ back)) := by
  induction fs generalizing front with
  | nil => exact ⟨[], rfl, rfl, fun s hs => absurd hs List.not_mem_nil⟩
  | cons f rest ih =>
      rw [Layout.place_cons_of_fits hfits, Layout.exactSize_cons] at *
      have hsize : (Layout.slotAt front.length f).size = (Shape.ofField f).exactSize :=
        hfits.size_eq
      obtain ⟨b, hb⟩ := h _ List.mem_cons_self
      have hlen : b.length = (Shape.ofField f).exactSize := (length_of_written hb).trans hsize
      have hnext : (front ++ b).length = front.length + (Shape.ofField f).exactSize := by
        rw [List.length_append, hlen]
      have hrest : ∀ s ∈ Layout.place (front ++ b).length rest, ∃ b, r.Written fields s b := by
        intro s hs
        rw [hnext] at hs
        exact h s (List.mem_cons_of_mem _ hs)
      obtain ⟨back, hwrite, hback, hall⟩ := ih (front ++ b) (hnext ▸ hfits.tail) hrest
      rw [hnext] at hwrite hall
      refine ⟨b ++ back, ?_, ?_, ?_⟩
      · rw [← List.append_assoc, ← hwrite, ← hsize]
        exact writeSlots_cons hb rfl _ _
      · rw [List.length_append, hlen, hback]
      · intro s hs
        rw [← List.append_assoc]
        rcases List.mem_cons.1 hs with rfl | hs
        · have hslice := Bytes.slice_append front b back
          rw [length_of_written hb] at hslice
          exact hslice.symm ▸ hb
        · exact hall s hs

/-- **Reading a slot returns** the value that it was written for. -/
theorem returns_of_written {r : Registry} {fields : Fields} {s : Slot} {b : Bytes} {v : Value}
    (hself : s.StandsForItself) (hfits : s.shape.Fits)
    (hgiven : fields.get? s.name = some v) (hv : s.shape.Holds v)
    (h : r.Written fields s b) : s.shape.Returns v (s.shape.read b) := by
  rw [Written, hgiven] at h
  obtain ⟨c, hwrite, -, hreturns⟩ := exists_writeSlot r hself hfits hv
  obtain rfl := Except.ok.inj (h.1.symm.trans hwrite)
  exact hreturns

/-- **A slot that was not written for a value** reads as blank. -/
theorem blank_of_written {r : Registry} {fields : Fields} {s : Slot} {b : Bytes}
    (hfits : s.shape.Fits) (hsize : s.size = s.shape.size) (hnone : fields.get? s.name = none)
    (h : r.Written fields s b) : s.shape.read b = s.shape.blank := by
  rw [Written, hnone] at h
  rw [h, hsize, Shape.read_zeros hfits]

end Registry

end Mavlink
