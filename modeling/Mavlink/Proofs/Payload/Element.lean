import Mavlink.Payload.Element
import Mavlink.Proofs.Number.Narrow
import Mavlink.Proofs.Text.Utf8

/-!
# A value of a wire type comes back from its bytes

Which values a wire type *holds*: an integer type holds the integers of its range, a floating-point
type the numbers of its format, and a character type a text of at most one byte. What is written is
as long as the type is wide, and reading it *returns* the value: for an integer the same number,
signed or unsigned as the type is, otherwise the very same value.

## Main results

* `integerOfRaw_rawOfInteger_iff`: an integer survives its bytes exactly if it is in range.
* `number?_read`, `inRange_integerOfRaw`: what integer bytes read as, and that it is in range.
* `exists_write_of_holds`: a held value is written, and returned when its bytes are read.
* `read_zeros`: zero bytes read as the zero of the type.
-/

namespace Mavlink

/-- There are 256 strings for each further byte. -/
theorem Bytes.count_eq (w : Nat) : Bytes.count w = 2 ^ (8 * w) := by
  induction w with
  | zero => rfl
  | succ w ih =>
      rw [Bytes.count, ih, Nat.mul_succ, Nat.pow_add, Nat.mul_comm]

/-- There is a string of every length. -/
theorem Bytes.count_pos (w : Nat) : 0 < Bytes.count w := by
  rw [Bytes.count_eq]
  exact Nat.two_pow_pos _

namespace WireType

/-! ### The values of a type -/

/-- Whether an integer is **in the range** of an integer type: two's complement for a signed
type. -/
def InRange (t : WireType) (n : Int) : Prop :=
  if t.isSigned then -(2 ^ (8 * t.size - 1) : Nat) ≤ n ∧ n < (2 ^ (8 * t.size - 1) : Nat)
  else 0 ≤ n ∧ n < (2 ^ (8 * t.size) : Nat)

instance (t : WireType) (n : Int) : Decidable (t.InRange n) :=
  inferInstanceAs (Decidable (if t.isSigned then _ else _))

/-- Whether a type **holds** a value. -/
def Holds (t : WireType) (v : Scalar) : Prop :=
  match t with
  | uint8 | uint16 | uint32 | uint64 | int8 | int16 | int32 | int64 =>
    ∃ n, v.number? = some n ∧ t.InRange n
  | float => ∃ x, v = .float x ∧ x.isNaN = false ∧ ∃ y : Binary32, Binary64.widen y = x
  | double => ∃ x, v = .float x
  | char => ∃ s, v = .text s ∧
      (s = "" ∨ ∃ c : Char, s = String.singleton c ∧ c.val < 0x80 ∧ c ≠ '\x00')

/-- Whether a type **returns** one value for another: an integer type keeps the number and gives
it its own signedness, every other type keeps the value. -/
def Returns (t : WireType) (v w : Scalar) : Prop :=
  if t.isInteger then
    w.number? = v.number? ∧ w.kind = if t.isSigned then .integer else .unsignedInteger
  else w = v

/-- The zero of a type. -/
def zero (t : WireType) : Scalar :=
  match t with
  | uint8 | uint16 | uint32 | uint64 => .uint 0
  | int8 | int16 | int32 | int64 => .int 0
  | float | double => .float ⟨0⟩
  | char => .text ""

/-- Only the character type holds texts. -/
theorem eq_char_of_holds_text {t : WireType} {s : String} (h : t.Holds (.text s)) : t = .char := by
  cases t with
  | char => rfl
  | float =>
      obtain ⟨x, hx, -⟩ := h
      cases hx
  | double =>
      obtain ⟨x, hx⟩ := h
      cases hx
  | _ =>
      obtain ⟨n, hn, -⟩ := h
      cases hn

/-! ### Integers -/

/-- No type takes more than eight bytes. -/
theorem size_le (t : WireType) : t.size ≤ 8 := by
  cases t <;> decide

/-- The raw bits of a number are the number modulo the number of byte strings of the width. -/
theorem natCast_rawOfInteger (t : WireType) (n : Int) :
    (t.rawOfInteger n : Int) = n % (Bytes.count t.size : Int) := by
  have hpos := Bytes.count_pos t.size
  exact Int.toNat_of_nonneg (Int.emod_nonneg n (by omega))

/-- Raw bits fit into the bytes of the type. -/
theorem rawOfInteger_lt (t : WireType) (n : Int) : t.rawOfInteger n < Bytes.count t.size := by
  have hpos := Bytes.count_pos t.size
  have hlt : n % (Bytes.count t.size : Int) < Bytes.count t.size :=
    Int.emod_lt_of_pos n (by omega)
  rw [← natCast_rawOfInteger] at hlt
  omega

/-- **An integer survives its bytes exactly if it is in range.** -/
theorem integerOfRaw_rawOfInteger_iff (t : WireType) (n : Int) :
    t.integerOfRaw (t.rawOfInteger n) = n ↔ t.InRange n := by
  have hsize := t.size_pos
  have hcount : Bytes.count t.size = 2 * 2 ^ (8 * t.size - 1) := by
    rw [Bytes.count_eq, ← Nat.pow_succ']
    congr 1
    omega
  have hpos := Nat.two_pow_pos (8 * t.size - 1)
  have hlt := t.rawOfInteger_lt n
  have hraw := t.natCast_rawOfInteger n
  rw [integerOfRaw, InRange]
  split
  · rw [hraw, Int.emod_bmod]
    constructor
    · intro h
      have hle := Int.le_bmod (x := n) (m := Bytes.count t.size) (by omega)
      have hlt := Int.bmod_lt (x := n) (m := Bytes.count t.size) (by omega)
      omega
    · intro h
      exact Int.bmod_eq_of_le (by omega) (by omega)
  · rw [← Bytes.count_eq]
    constructor
    · intro h
      omega
    · rintro ⟨hlow, hhigh⟩
      exact hraw.trans (Int.emod_eq_of_lt hlow hhigh)

/-- Integer types write integers. -/
theorem write_of_isInteger {t : WireType} (h : t.isInteger = true) (v : Scalar) :
    t.write v = t.writeInteger v := by
  cases t <;> first | rfl | exact absurd h (by decide)

/-- Integer types read integers, signed ones by the sign. -/
theorem read_of_isInteger {t : WireType} (h : t.isInteger = true) (b : Bytes) :
    t.read b =
      if t.isSigned then .int (Int64.ofInt (t.integerOfRaw (Bytes.fromLittleEndian b)))
      else .uint (UInt64.ofNat (Bytes.fromLittleEndian b)) := by
  cases t <;> first | rfl | exact absurd h (by decide)

/-- An integer type holds the integers of its range. -/
theorem holds_of_isInteger {t : WireType} (h : t.isInteger = true) {v : Scalar} :
    t.Holds v ↔ ∃ n, v.number? = some n ∧ t.InRange n := by
  cases t <;> first | rfl | exact absurd h (by decide)

/-- **Integers in range are written.** -/
theorem writeInteger_of_inRange {t : WireType} {v : Scalar} {n : Int} (hv : v.number? = some n)
    (hn : t.InRange n) :
    t.writeInteger v = .ok (Bytes.littleEndian t.size (t.rawOfInteger n)) := by
  rw [writeInteger, hv]
  exact if_pos ((integerOfRaw_rawOfInteger_iff t n).2 hn)

/-- Every integer type is within the 64 bits that integers are read into. -/
theorem bounds_of_inRange {t : WireType} {n : Int} (hn : t.InRange n) :
    if t.isSigned then -2 ^ 63 ≤ n ∧ n < 2 ^ 63 else 0 ≤ n ∧ n < 2 ^ 64 := by
  have hsize := t.size_le
  rw [InRange] at hn
  split at hn
  · next hsigned =>
    have hpow : 2 ^ (8 * t.size - 1) ≤ 2 ^ 63 := Nat.pow_le_pow_right (by decide) (by omega)
    rw [if_pos hsigned]
    omega
  · next hunsigned =>
    have hpow : 2 ^ (8 * t.size) ≤ 2 ^ 64 := Nat.pow_le_pow_right (by decide) (by omega)
    rw [if_neg hunsigned]
    omega

/-- Raw bits are recovered from the number that they denote. -/
theorem rawOfInteger_integerOfRaw {t : WireType} {raw : Nat} (h : raw < Bytes.count t.size) :
    t.rawOfInteger (t.integerOfRaw raw) = raw := by
  have hmod : (raw : Int) % (Bytes.count t.size : Int) = raw :=
    Int.emod_eq_of_lt (Int.natCast_nonneg raw) (Int.ofNat_lt.mpr h)
  have hraw := t.natCast_rawOfInteger (t.integerOfRaw raw)
  rw [integerOfRaw] at hraw ⊢
  split at hraw
  · next hsigned =>
    rw [if_pos hsigned]
    rw [Int.bmod_emod, hmod] at hraw
    exact Int.ofNat_inj.mp hraw
  · next hunsigned =>
    rw [if_neg hunsigned]
    rw [hmod] at hraw
    exact Int.ofNat_inj.mp hraw

/-- **Raw bits denote a number of the range.** -/
theorem inRange_integerOfRaw {t : WireType} {raw : Nat} (h : raw < Bytes.count t.size) :
    t.InRange (t.integerOfRaw raw) := by
  rw [← integerOfRaw_rawOfInteger_iff, rawOfInteger_integerOfRaw h]

/-- **An integer is read as the number that its bytes denote.** -/
theorem number?_read {t : WireType} (ht : t.isInteger = true) {b : Bytes}
    (hlen : b.length = t.size) :
    (t.read b).number? = some (t.integerOfRaw (Bytes.fromLittleEndian b)) := by
  have hlt : Bytes.fromLittleEndian b < Bytes.count t.size := hlen ▸ Bytes.fromLittleEndian_lt b
  have hbounds := bounds_of_inRange (inRange_integerOfRaw hlt)
  rw [read_of_isInteger ht]
  split
  · next hsigned =>
    rw [if_pos hsigned] at hbounds
    exact congrArg some (Int64.toInt_ofInt_of_le hbounds.1 hbounds.2)
  · next hunsigned =>
    rw [if_neg hunsigned] at hbounds
    rw [integerOfRaw, if_neg hunsigned] at hbounds ⊢
    have hsmall : Bytes.fromLittleEndian b < 2 ^ 64 := by omega
    exact congrArg (some ∘ Int.ofNat) (UInt64.toNat_ofNat_of_lt' hsmall)

/-- An integer is read with a sign exactly if its type has one. -/
theorem kind_read {t : WireType} (ht : t.isInteger = true) (b : Bytes) :
    (t.read b).kind = if t.isSigned then .integer else .unsignedInteger := by
  rw [read_of_isInteger ht]
  split <;> rfl

/-- **Integers in range are returned.** -/
theorem returns_read_integer {t : WireType} (ht : t.isInteger = true) {v : Scalar} {n : Int}
    (hv : v.number? = some n) (hn : t.InRange n) :
    t.Returns v (t.read (Bytes.littleEndian t.size (t.rawOfInteger n))) := by
  rw [Returns, if_pos ht, number?_read ht (Bytes.length_littleEndian _ _), hv,
    Bytes.fromLittleEndian_littleEndian (t.rawOfInteger_lt n),
    (integerOfRaw_rawOfInteger_iff t n).2 hn]
  exact ⟨rfl, kind_read ht _⟩

/-! ### Floating-point numbers -/

/-- **Numbers of the 32-bit format are written and returned.** -/
theorem write_float {y : Binary32} (h : (Binary64.widen y).isNaN = false) :
    write .float (.float (Binary64.widen y)) =
      .ok (Bytes.littleEndian 4 y.bits.toNat) := by
  have hmagnitude : y.magnitude ≤ Binary.Format.binary32.infinity := by
    refine Nat.le_of_not_lt ?_
    intro hlt
    rw [Binary64.isNaN_widen hlt] at h
    exact Bool.false_ne_true h.symm
  rw [write, writeFloat]
  simp only [Scalar.toBinary64?]
  rw [Binary64.exceedsNarrow_widen hmagnitude, if_neg Bool.false_ne_true,
    Binary64.narrow_widen hmagnitude]

/-- The bytes of a number of 32 bits are read as this number, widened. -/
theorem read_float (y : Binary32) :
    read .float (Bytes.littleEndian 4 y.bits.toNat) = .float (Binary64.widen y) := by
  have hlt : y.bits.toNat < Bytes.count 4 := y.bits.toNat_lt
  rw [read, Bytes.fromLittleEndian_littleEndian hlt, UInt32.ofNat_toNat]

/-- The bytes of a number of 64 bits are read as this number. -/
theorem read_double (x : Binary64) :
    read .double (Bytes.littleEndian 8 x.bits.toNat) = .float x := by
  have hlt : x.bits.toNat < Bytes.count 8 := x.bits.toNat_lt
  rw [read, Bytes.fromLittleEndian_littleEndian hlt, UInt64.ofNat_toNat]

/-! ### Characters -/

/-- An empty text or a single ASCII character fits into one byte. -/
theorem plain_one {s : String}
    (h : s = "" ∨ ∃ c : Char, s = String.singleton c ∧ c.val < 0x80 ∧ c ≠ '\x00') :
    Text.Plain 1 s := by
  rcases h with rfl | ⟨c, rfl, hc, hzero⟩
  · exact ⟨by decide, by decide⟩
  · have hsize : c.utf8Size = 1 := by
      rw [Char.utf8Size_eq_one_iff, UInt32.le_iff_toNat_le]
      exact Nat.le_of_lt_succ hc
    refine ⟨?_, ?_⟩
    · rw [String.utf8ByteSize_singleton, hsize]
    · rw [String.toList_singleton, List.mem_singleton]
      exact Ne.symm hzero

/-- A byte string of at most one byte, filled up to one byte, is its first byte. -/
theorem fit_one {b : Bytes} (h : b.length ≤ 1) : Bytes.fit 1 b = [b.headD 0] := by
  match b, h with
  | [], _ => rfl
  | [_], _ => rfl

/-! ### Any value -/

/-- **A held value is written, and returned when its bytes are read.** -/
theorem exists_write_of_holds {t : WireType} {v : Scalar} (h : t.Holds v) :
    ∃ b, t.write v = .ok b ∧ b.length = t.size ∧ t.Returns v (t.read b) := by
  by_cases ht : t.isInteger = true
  · obtain ⟨n, hv, hn⟩ := (holds_of_isInteger ht).1 h
    refine ⟨_, ?_, Bytes.length_littleEndian _ _, returns_read_integer ht hv hn⟩
    rw [write_of_isInteger ht, writeInteger_of_inRange hv hn]
  · cases t with
    | float =>
        obtain ⟨x, rfl, hnan, y, rfl⟩ := h
        exact ⟨_, write_float hnan, Bytes.length_littleEndian _ _, read_float y⟩
    | double =>
        obtain ⟨x, rfl⟩ := h
        exact ⟨_, rfl, Bytes.length_littleEndian _ _, read_double x⟩
    | char =>
        obtain ⟨s, rfl, hs⟩ := h
        have hplain := plain_one hs
        have hlen : (Text.bytes s).length ≤ 1 := Text.length_bytes s ▸ hplain.fits
        refine ⟨_, rfl, rfl, congrArg Scalar.text ?_⟩
        rw [← fit_one hlen, Text.ofField_fit_bytes hplain]
    | _ => exact absurd rfl ht

/-- Zero bytes denote zero. -/
theorem fromLittleEndian_zeros (n : Nat) : Bytes.fromLittleEndian (Bytes.zeros n) = 0 := by
  induction n with
  | zero => rfl
  | succ n ih =>
      rw [Bytes.zeros, List.replicate_succ, Bytes.fromLittleEndian]
      exact congrArg (0 + 256 * ·) ih

/-- **Zero bytes read as the zero of the type.** -/
theorem read_zeros (t : WireType) : t.read (Bytes.zeros t.size) = t.zero := by
  by_cases ht : t.isInteger = true
  · have hraw : t.integerOfRaw 0 = 0 := by
      rw [integerOfRaw]
      split
      · exact Int.zero_bmod
      · rfl
    rw [read_of_isInteger ht, fromLittleEndian_zeros, hraw]
    cases t <;> first | rfl | exact absurd ht (by decide)
  · cases t with
    | float =>
        have hzero : Binary64.widen ⟨0⟩ = ⟨0⟩ := by decide +kernel
        exact (read_float ⟨0⟩).trans (congrArg Scalar.float hzero)
    | double => exact read_double ⟨0⟩
    | char => rfl
    | _ => exact absurd rfl ht

end WireType

end Mavlink
