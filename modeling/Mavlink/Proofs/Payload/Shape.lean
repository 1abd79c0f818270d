import Mathlib.Data.List.Forall2
import Mavlink.Payload.Element
import Mavlink.Proofs.Dialect.Layout
import Mavlink.Proofs.Payload.Element

/-!
# A field comes back from its bytes

A field of a shape holds the values that its type holds: a scalar one of them, an array at most as
many as it is long, a text field a plain text. Reading the bytes of a field returns an array filled
up with zeros to its full length.

The bytes of an array are those of the elements that it has room for. These are as many as its
length says, unless the size of the array does not fit into 64 bits.

## Main results

* `exists_write_of_holds`: a held value is written into exactly the bytes of the shape, and
  returned when they are read.
* `read_zeros`: a field that was not written reads as blank.
-/

namespace Mavlink

namespace Bytes

/-- Behind whole pieces the rest is cut on its own. -/
theorem pieces_append {size : Nat} {front : Bytes} {m : Nat} (h : front.length = size * m)
    (n : Nat) (back : Bytes) :
    pieces size (m + n) (front ++ back) = pieces size m front ++ pieces size n back := by
  induction m generalizing front with
  | zero =>
      obtain rfl := List.length_eq_zero_iff.mp h
      rw [Nat.zero_add, List.nil_append]
      rfl
  | succ m ih =>
      have hle : size ≤ front.length := by
        rw [h]
        exact Nat.le_mul_of_pos_right size (Nat.succ_pos m)
      have hrest : (front.drop size).length = size * m := by
        rw [List.length_drop, h, Nat.mul_succ, Nat.add_sub_cancel]
      rw [Nat.succ_add_eq_add_succ, Nat.add_succ, pieces, pieces, List.take_append_of_le_length hle,
        List.drop_append_of_le_length hle, ih hrest, List.cons_append]

/-- Zero bytes are cut into zero bytes. -/
theorem pieces_zeros (size n : Nat) :
    pieces size n (zeros (size * n)) = List.replicate n (zeros size) := by
  induction n with
  | zero => rfl
  | succ n ih =>
      have hlength := length_zeros size
      rw [pieces, Nat.mul_succ, Nat.add_comm, zeros_add, List.take_left' hlength,
        List.drop_left' hlength, ih, List.replicate_succ]

/-- As many pieces are cut as are asked for. -/
theorem length_pieces (size n : Nat) (b : Bytes) : (pieces size n b).length = n := by
  induction n generalizing b with
  | zero => rfl
  | succ n ih => rw [pieces, List.length_cons, ih]

/-- The pieces follow each other without gaps. -/
theorem flatten_pieces (size n : Nat) (b : Bytes) :
    (pieces size n b).flatten = b.take (size * n) := by
  induction n generalizing b with
  | zero => simp [pieces]
  | succ n ih =>
      rw [pieces, List.flatten_cons, ih, Nat.mul_succ, Nat.add_comm, List.take_add]

/-- Every piece of a long enough string has the size asked for. -/
theorem length_of_mem_pieces {size n : Nat} {b p : Bytes} (hlen : b.length = size * n)
    (hp : p ∈ pieces size n b) : p.length = size := by
  induction n generalizing b with
  | zero => exact absurd hp List.not_mem_nil
  | succ n ih =>
      rw [Nat.mul_succ] at hlen
      rcases List.mem_cons.1 hp with rfl | hp
      · exact List.length_take_of_le (by omega)
      · refine ih ?_ hp
        rw [List.length_drop, hlen, Nat.add_sub_cancel]

/-- A string of whole pieces is cut into all of them. -/
theorem wholePieces_eq {size : Nat} (hsize : 0 < size) {n : Nat} {b : Bytes}
    (hlen : b.length = size * n) : b.wholePieces size = b.pieces size n := by
  rw [wholePieces, hlen, Nat.mul_div_cancel_left n hsize]

end Bytes

namespace WireType

/-- **Held values are written one after the other**, and each is returned from its piece. -/
theorem exists_writeAll_of_holds {t : WireType} {items : List Scalar}
    (h : ∀ v ∈ items, t.Holds v) :
    ∃ b, t.writeAll items = .ok b ∧ b.length = t.size * items.length ∧
      List.Forall₂ t.Returns items ((Bytes.pieces t.size items.length b).map t.read) := by
  induction items with
  | nil => exact ⟨[], rfl, rfl, .nil⟩
  | cons v rest ih =>
      obtain ⟨front, hwrite, hfront, hreturns⟩ :=
        exists_write_of_holds (h v List.mem_cons_self)
      obtain ⟨back, hwriteAll, hback, hall⟩ := ih fun w hw => h w (List.mem_cons_of_mem v hw)
      refine ⟨front ++ back, ?_, ?_, ?_⟩
      · rw [writeAll, hwrite, hwriteAll]
        rfl
      · rw [List.length_append, hfront, hback, List.length_cons, Nat.mul_succ, Nat.add_comm]
      · rw [List.length_cons, Bytes.pieces, List.take_left' hfront, List.drop_left' hfront,
          List.map_cons]
        exact .cons hreturns hall

end WireType

namespace Shape

/-- Whether a field of a shape **holds** a value. -/
inductive Holds : Shape → Value → Prop
  | scalar {t v} : t.Holds v → Holds (.scalar t) (.scalar v)
  | text {length s} : Text.Plain length s → Holds (.text length) (.scalar (.text s))
  | array {t length items} :
      items.length ≤ length → (∀ v ∈ items, t.Holds v) →
        Holds (.array t length) (.array items)

/-- Whether a field of a shape **returns** one value for another: an array is filled up with zeros
to its full length. -/
inductive Returns : Shape → Value → Value → Prop
  | scalar {t v w} : t.Returns v w → Returns (.scalar t) (.scalar v) (.scalar w)
  | text {length s} : Returns (.text length) (.scalar (.text s)) (.scalar (.text s))
  | array {t length items front} :
      List.Forall₂ t.Returns items front →
        Returns (.array t length) (.array items)
          (.array (front ++ List.replicate (length - items.length) t.zero))

/-- The value of a field of a shape that was not written. -/
def blank : Shape → Value
  | scalar t => .scalar t.zero
  | array t length => .array (List.replicate length t.zero)
  | text _ => .scalar (.text "")

/-! ### The elements that there are bytes for -/

/-- **The bytes of an array** are those of the elements that it has room for: what is lost of its
size is a whole number of elements, whatever their type. -/
theorem size_array (t : WireType) (length : Nat) :
    (array t length).size = t.size * room t length := by
  have hbound : t.size ∣ sizeBound := by cases t <;> decide
  have hsize : t.size ∣ (array t length).size :=
    (Nat.dvd_mod_iff hbound).2 (Nat.dvd_mul_right t.size length)
  exact (Nat.mul_div_cancel' hsize).symm

/-- No array has room for more elements than its length says. -/
theorem room_le (t : WireType) (length : Nat) : room t length ≤ length := by
  have hsize : (array t length).size ≤ t.size * length := Nat.mod_le _ _
  exact (Nat.div_le_div_right hsize).trans_eq (Nat.mul_div_cancel_left length t.size_pos)

/-- An array whose size is exact has room for as many elements as its length says. -/
theorem room_eq {t : WireType} {length : Nat} (h : (array t length).Fits) :
    room t length = length := by
  rw [room, size_eq_exactSize h, exactSize, Nat.mul_div_cancel_left length t.size_pos]

/-- An array is read from its bytes element by element. -/
theorem read_array {t : WireType} {length : Nat} {b : Bytes}
    (hlen : b.length = (array t length).size) :
    (array t length).read b = .array ((b.pieces t.size (room t length)).map t.read) := by
  rw [read, Bytes.wholePieces_eq t.size_pos (hlen.trans (size_array t length))]

/-! ### Values come back -/

/-- **Items that there is room for** are written into exactly the bytes of the array. -/
theorem exists_write_array {t : WireType} {length : Nat} {items : List Scalar}
    (hlen : items.length ≤ room t length) (h : ∀ v ∈ items, t.Holds v) :
    ∃ b, (Shape.array t length).write (.array items) = .ok b ∧ b.length = (array t length).size ∧
      ∃ front, List.Forall₂ t.Returns items front ∧ (Shape.array t length).read b =
        .array (front ++ List.replicate (room t length - items.length) t.zero) := by
  obtain ⟨b, hwrite, hsize, hall⟩ := WireType.exists_writeAll_of_holds h
  have hcount : room t length = items.length + (room t length - items.length) := by omega
  have hle : b.length ≤ t.size * room t length := by
    rw [hsize]
    exact Nat.mul_le_mul_left t.size hlen
  have hfit : Bytes.fit (t.size * room t length) b =
      b ++ Bytes.zeros (t.size * (room t length - items.length)) := by
    rw [Bytes.fit, List.take_of_length_le hle, hsize, Nat.mul_sub]
  refine ⟨Bytes.fit (array t length).size b, ?_, Bytes.length_fit _ _, _, hall, ?_⟩
  · rw [write, writeItems, List.take_of_length_le hlen, hwrite]
    rfl
  · have hpieces : Bytes.pieces t.size (room t length) (Bytes.fit (array t length).size b) =
        Bytes.pieces t.size items.length b ++
          List.replicate (room t length - items.length) (Bytes.zeros t.size) := by
      rw [size_array, hfit, ← Bytes.pieces_zeros, ← Bytes.pieces_append hsize, ← hcount]
    rw [read_array (Bytes.length_fit _ _), hpieces, List.map_append, List.map_replicate,
      t.read_zeros]

/-- **A held value is written into exactly the bytes of the shape, and returned when they are
read**, if the size of the shape is exact. -/
theorem exists_write_of_holds {shape : Shape} {v : Value} (hfits : shape.Fits)
    (h : shape.Holds v) :
    ∃ b, shape.write v = .ok b ∧ b.length = shape.size ∧ shape.Returns v (shape.read b) := by
  cases h with
  | scalar hv =>
      obtain ⟨b, hwrite, hlen, hreturns⟩ := WireType.exists_write_of_holds hv
      exact ⟨b, hwrite, hlen, .scalar hreturns⟩
  | @text length s hs =>
      refine ⟨Bytes.fit length (Text.bytes s), rfl, Bytes.length_fit _ _, ?_⟩
      rw [read, Text.ofField_fit_bytes hs]
      exact .text
  | @array t length items hlen hitems =>
      have hroom := room_eq hfits
      obtain ⟨b, hwrite, hsize, front, hfront, hread⟩ :=
        exists_write_array (hlen.trans_eq hroom.symm) hitems
      refine ⟨b, hwrite, hsize, ?_⟩
      rw [hread, hroom]
      exact .array hfront

/-- **A field that was not written reads as blank**, if its size is exact. -/
theorem read_zeros {shape : Shape} (hfits : shape.Fits) :
    shape.read (Bytes.zeros shape.size) = shape.blank := by
  cases shape with
  | scalar t => exact congrArg Value.scalar t.read_zeros
  | array t length =>
      rw [read_array (Bytes.length_zeros _), size_array, Bytes.pieces_zeros, List.map_replicate,
        t.read_zeros, room_eq hfits]
      rfl
  | text length =>
      have hempty : Text.Plain length "" := ⟨Nat.zero_le _, by decide⟩
      have hfit : Bytes.fit length (Text.bytes "") = Bytes.zeros length := by
        show [].take length ++ Bytes.zeros (length - 0) = Bytes.zeros length
        rw [List.take_nil, List.nil_append, Nat.sub_zero]
      rw [size, read, ← hfit, Text.ofField_fit_bytes hempty]
      rfl

end Shape

end Mavlink
