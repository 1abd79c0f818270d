/-!
# Byte strings

Everything that travels over a telemetry link is a byte string. This module fixes the type and
the few operations that the rest of the library is written in: little-endian numbers of a given
width, slices, overwriting a slice in place, and cutting a string to a fixed length.

## Main results

* `fromLittleEndian_littleEndian`: a number is recovered from its bytes if there are enough of them.
* `littleEndian_fromLittleEndian`: every byte string is the writing of the number it reads as.
* `split?_eq_some_iff`: splitting off `n` bytes succeeds exactly on the strings that have them.
-/

namespace Mavlink

/-- A string of bytes. -/
abbrev Bytes := List UInt8

namespace Bytes

/-! ### Little-endian numbers -/

/-- How many byte strings of a length there are. -/
def count : Nat → Nat
  | 0 => 1
  | w + 1 => 256 * count w

/-- The `w` low bytes of a number, least significant first. -/
def littleEndian : Nat → Nat → Bytes
  | 0, _ => []
  | w + 1, n => UInt8.ofNat n :: littleEndian w (n / 256)

/-- The number whose bytes are given, least significant first. -/
def fromLittleEndian : Bytes → Nat
  | [] => 0
  | b :: rest => b.toNat + 256 * fromLittleEndian rest

/-- A number is written in as many bytes as are asked for. -/
@[simp] theorem length_littleEndian (w n : Nat) : (littleEndian w n).length = w := by
  induction w generalizing n with
  | zero => rfl
  | succ w ih => simp [littleEndian, ih]

/-- The number in a string is less than the count of strings of its length. -/
theorem fromLittleEndian_lt (b : Bytes) : fromLittleEndian b < count b.length := by
  induction b with
  | nil => exact Nat.one_pos
  | cons x rest ih =>
    have hx := x.toNat_lt
    simp only [fromLittleEndian, List.length_cons, count]
    omega

/-- Writing keeps a number modulo the number of byte strings of the width. -/
theorem fromLittleEndian_littleEndian_mod (w n : Nat) :
    fromLittleEndian (littleEndian w n) = n % count w := by
  induction w generalizing n with
  | zero => simp [littleEndian, fromLittleEndian, count, Nat.mod_one]
  | succ w ih =>
    have hbyte : (UInt8.ofNat n).toNat = n % 256 := UInt8.toNat_ofNat'
    rw [littleEndian, fromLittleEndian, ih, hbyte, count, Nat.mod_mul]

/-- A number that fits into `w` bytes is read back from them. -/
theorem fromLittleEndian_littleEndian {w n : Nat} (h : n < count w) :
    fromLittleEndian (littleEndian w n) = n := by
  rw [fromLittleEndian_littleEndian_mod, Nat.mod_eq_of_lt h]

/-- Every byte string is the writing of the number it reads as. -/
theorem littleEndian_fromLittleEndian (b : Bytes) :
    littleEndian b.length (fromLittleEndian b) = b := by
  induction b with
  | nil => rfl
  | cons x rest ih =>
    have hx := x.toNat_lt
    have hdiv : (x.toNat + 256 * fromLittleEndian rest) / 256 = fromLittleEndian rest := by omega
    simp only [List.length_cons, littleEndian, fromLittleEndian, hdiv, ih, List.cons.injEq,
      and_true]
    apply UInt8.toNat_inj.mp
    simp only [UInt8.toNat_ofNat']
    omega

/-! ### Slices -/

/-- The `length` bytes from position `start` on, or as many of them as there are. -/
def slice (start length : Nat) (b : Bytes) : Bytes :=
  (b.drop start).take length

/-- A slice that ends within the string has its full length. -/
theorem length_slice_of_le {start n : Nat} {b : Bytes} (h : start + n ≤ b.length) :
    (slice start n b).length = n := by
  rw [slice, List.length_take, List.length_drop]
  omega

/-- The string with `new` written over the bytes from position `start` on. -/
def overwrite (start : Nat) (new b : Bytes) : Bytes :=
  b.take start ++ new ++ b.drop (start + new.length)

/-- A string of `n` zero bytes. -/
def zeros (n : Nat) : Bytes :=
  List.replicate n 0

/-- A string of `n` zero bytes is `n` bytes long. -/
@[simp] theorem length_zeros (n : Nat) : (zeros n).length = n :=
  List.length_replicate

/-- Zero bytes behind zero bytes are as many zero bytes together. -/
theorem zeros_add (m n : Nat) : zeros (m + n) = zeros m ++ zeros n :=
  List.replicate_append_replicate.symm

/-- The string cut, or filled up with zero bytes, to exactly `n` bytes. -/
def fit (n : Nat) (b : Bytes) : Bytes :=
  b.take n ++ zeros (n - b.length)

/-- A string that was cut or filled up has exactly the length asked for. -/
@[simp] theorem length_fit (n : Nat) (b : Bytes) : (fit n b).length = n := by
  simp only [fit, List.length_append, List.length_take, length_zeros]
  omega

/-- The string cut, or filled up with zero bytes, as a vector. -/
def toVector (n : Nat) (b : Bytes) : Vector UInt8 n :=
  ⟨(fit n b).toArray, by simp⟩

/-- The bytes of the vector are those of the cut or filled string. -/
@[simp] theorem toList_toVector (n : Nat) (b : Bytes) : (toVector n b).toList = fit n b := by
  simp [toVector, Vector.toList]

/-- A string of the right length is neither cut nor filled up. -/
theorem fit_of_length_eq {n : Nat} {b : Bytes} (h : b.length = n) : fit n b = b := by
  subst h
  simp [fit, zeros]

/-- The first `n` bytes and what follows them, if there are that many. -/
def split? : Nat → Bytes → Option (Bytes × Bytes)
  | 0, b => some ([], b)
  | _ + 1, [] => none
  | n + 1, x :: b => (split? n b).map fun (front, rest) => (x :: front, rest)

/-- Splitting off `n` bytes succeeds exactly on the strings that begin with them. -/
theorem split?_eq_some_iff {n : Nat} {b front rest : Bytes} :
    split? n b = some (front, rest) ↔ b = front ++ rest ∧ front.length = n := by
  induction n generalizing b front with
  | zero =>
    cases front <;> simp [split?, eq_comm]
  | succ n ih =>
    cases b with
    | nil => cases front <;> simp [split?]
    | cons x b =>
      cases front with
      | nil => simp [split?]
      | cons y front =>
        simp only [split?, Option.map_eq_some_iff, Prod.exists, Prod.mk.injEq, List.cons.injEq,
          List.cons_append, List.length_cons, Nat.add_right_cancel_iff]
        grind

/-- Splitting fails exactly when bytes are missing. -/
theorem split?_eq_none_iff {n : Nat} {b : Bytes} : split? n b = none ↔ b.length < n := by
  induction n generalizing b with
  | zero => simp [split?]
  | succ n ih => cases b <;> simp [split?, ih]

/-- The first `count` pieces of `size` bytes each. -/
def pieces (size : Nat) : Nat → Bytes → List Bytes
  | 0, _ => []
  | count + 1, b => b.take size :: pieces size count (b.drop size)

/-- The string cut into as many pieces of `size` bytes as it has; what is left is no piece. -/
def wholePieces (size : Nat) (b : Bytes) : List Bytes :=
  pieces size (b.length / size) b

/-- The whole string cut into pieces of `size` bytes, the last one as long as what is left. -/
def chunks (size : Nat) (b : Bytes) : List Bytes :=
  pieces size ((b.length + size - 1) / size) b

/-- The bytes before the first zero byte. -/
def untilZero (b : Bytes) : Bytes :=
  b.takeWhile (· ≠ 0)

end Bytes

end Mavlink
