import Mavlink.Crc

/-!
# What the checksum tells apart

A byte enters the register through the register's low byte: both are added, and the sum is spread
into a word that is added to the high byte, shifted down. The high byte of that word shows what was
spread, and nothing else reaches the new high byte. So the new register shows which sum went in, and
then the rest of the old register. From this it follows that bytes never bring different registers
together, and that a register tells two strings apart that differ in two adjacent bytes only.

## Main results

* `step_left_inj`, `update_left_inj`: bytes keep different registers apart.
* `step_step_inj`: two bytes in a row are told apart by the register after them.
* `eq_of_frame_eq`: so are strings that differ in one pair of adjacent bytes only.
-/

namespace Mavlink

/-! ### Strings that differ in one pair of bytes -/

namespace Bytes

/-- A byte of a slice is the byte of the string that far behind the start. -/
theorem getElem?_slice (start n : Nat) (b : Bytes) (j : Nat) :
    (slice start n b)[j]? = if j < n then b[start + j]? else none := by
  rw [slice, List.getElem?_take, List.getElem?_drop]

/-- Slices that are the same show the same bytes. -/
theorem getElem?_eq_of_slice_eq {start n : Nat} {b b' : Bytes}
    (h : slice start n b' = slice start n b) {j : Nat} (hstart : start ≤ j)
    (hstop : j < start + n) : b'[j]? = b[j]? := by
  have hj := congrArg (·[j - start]?) h
  simp only [getElem?_slice] at hj
  rw [if_pos (by omega), if_pos (by omega), Nat.add_sub_cancel' hstart] at hj
  exact hj

/-- Two strings of one length are the **same off the pair** of bytes at `i` and `i + 1`. -/
structure SameOffPair (i : Nat) (b b' : Bytes) : Prop where
  length_eq : b'.length = b.length
  getElem?_eq : ∀ j, j ≠ i → j ≠ i + 1 → b'[j]? = b[j]?

namespace SameOffPair

variable {i : Nat} {b b' : Bytes} {x x' : UInt8}

/-- Strings that show different pairs between the same bytes. -/
theorem of_append (front back : Bytes) (x y x' y' : UInt8) :
    SameOffPair front.length (front ++ x :: y :: back) (front ++ x' :: y' :: back) where
  length_eq := by simp
  getElem?_eq j hj hj' := by
    rw [List.getElem?_append, List.getElem?_append]
    by_cases hfront : j < front.length
    · rw [if_pos hfront, if_pos hfront]
    · obtain ⟨k, rfl⟩ : ∃ k, j = front.length + (k + 2) := ⟨j - front.length - 2, by omega⟩
      rw [if_neg hfront, if_neg hfront, Nat.add_sub_cancel_left]
      rfl

/-- What stands before the pair is the same. -/
theorem head_eq (h : SameOffPair (i + 1) (x :: b) (x' :: b')) : x' = x :=
  Option.some.inj (h.getElem?_eq 0 (Nat.zero_ne_add_one i) (Nat.zero_ne_add_one (i + 1)))

/-- Off the pair, the rests are the same as well. -/
theorem tail (h : SameOffPair (i + 1) (x :: b) (x' :: b')) : SameOffPair i b b' where
  length_eq := Nat.succ.inj h.length_eq
  getElem?_eq j hj hj' :=
    h.getElem?_eq (j + 1) (fun heq => hj (Nat.succ.inj heq)) (fun heq => hj' (Nat.succ.inj heq))

/-- What stands after the pair is the same. -/
theorem tail_tail_eq {y y' : UInt8} (h : SameOffPair 0 (x :: y :: b) (x' :: y' :: b')) : b' = b :=
  List.ext_getElem? fun j =>
    h.getElem?_eq (j + 2) (Nat.succ_ne_zero _) fun heq => Nat.succ_ne_zero j (Nat.succ.inj heq)

/-- Strings that are the same off a pair and at the pair are the same. -/
theorem eq_of_pair_eq (h : SameOffPair i b b') (hfirst : b'[i]? = b[i]?)
    (hsecond : b'[i + 1]? = b[i + 1]?) : b' = b := by
  refine List.ext_getElem? fun j => ?_
  by_cases hj : j = i
  · rw [hj, hfirst]
  · by_cases hj' : j = i + 1
    · rw [hj', hsecond]
    · exact h.getElem?_eq j hj hj'

/-- Slices are the same off the part of the pair that is in them. -/
theorem slice (h : SameOffPair i b b') (start n : Nat) :
    SameOffPair (i - start) (Bytes.slice start n b) (Bytes.slice start n b') where
  length_eq := by
    rw [Bytes.slice, Bytes.slice, List.length_take, List.length_take, List.length_drop,
      List.length_drop, h.length_eq]
  getElem?_eq j hj hj' := by
    rw [getElem?_slice, getElem?_slice, h.getElem?_eq (start + j) (by omega) (by omega)]

/-- Slices without the pair are the same. -/
theorem slice_eq (h : SameOffPair i b b') {start n : Nat} (hout : i + 1 < start ∨ start + n ≤ i) :
    Bytes.slice start n b' = Bytes.slice start n b := by
  refine List.ext_getElem? fun j => ?_
  rw [getElem?_slice, getElem?_slice]
  by_cases hj : j < n
  · rw [if_pos hj, if_pos hj, h.getElem?_eq (start + j) (by omega) (by omega)]
  · rw [if_neg hj, if_neg hj]

end SameOffPair

end Bytes

namespace Crc

/-! ### One byte -/

/-- The word that a byte is spread into. -/
def spread (low : UInt8) : UInt16 :=
  let mixed := (low ^^^ (low <<< 4)).toUInt16
  (mixed <<< 8) ^^^ (mixed <<< 3) ^^^ (mixed >>> 4)

/-- A byte is added to the low byte of the register and spread over what is left of it. -/
theorem step_eq (register : UInt16) (byte : UInt8) :
    step register byte = (register >>> 8) ^^^ spread (byte ^^^ register.toUInt8) := by
  simp only [step, spread, UInt16.xor_assoc]

/-- The byte that was spread into a word with the given high byte. Adding a byte to itself, shifted
by half its width or more, is undone by doing it again. -/
def gather (high : UInt8) : UInt8 :=
  let mixed := high ^^^ (high >>> 5)
  mixed ^^^ (mixed <<< 4)

/-- The high byte of a spread word has all that is needed to gather the byte again. -/
theorem gather_spread (low : UInt8) : gather (spread low >>> 8).toUInt8 = low := by
  have hall : ∀ n : Fin 256, gather (spread (UInt8.ofFin n) >>> 8).toUInt8 = UInt8.ofFin n := by
    decide +kernel
  exact hall low.toFin

/-- A shifted register has no high byte. -/
theorem shiftRight_shiftRight (register : UInt16) : register >>> 8 >>> 8 = 0 := by
  refine UInt16.toNat_inj.1 ?_
  have hlt := register.toNat_lt
  rw [UInt16.toNat_shiftRight, UInt16.toNat_shiftRight]
  show register.toNat >>> 8 >>> 8 = 0
  rw [Nat.shiftRight_eq_div_pow, Nat.shiftRight_eq_div_pow]
  omega

/-- The high byte of the new register shows which sum was spread. -/
theorem gather_step (register : UInt16) (byte : UInt8) :
    gather (step register byte >>> 8).toUInt8 = byte ^^^ register.toUInt8 := by
  rw [step_eq, UInt16.shiftRight_xor, shiftRight_shiftRight, UInt16.zero_xor, gather_spread]

/-- A register is determined by its two bytes. -/
theorem eq_of_bytes_eq {register register' : UInt16} (hhigh : register >>> 8 = register' >>> 8)
    (hlow : register.toUInt8 = register'.toUInt8) : register = register' := by
  have hhigh := congrArg UInt16.toNat hhigh
  have hlow := congrArg UInt8.toNat hlow
  rw [UInt16.toNat_shiftRight, UInt16.toNat_shiftRight] at hhigh
  have hdiv : register.toNat / 2 ^ 8 = register'.toNat / 2 ^ 8 := by
    rw [← Nat.shiftRight_eq_div_pow, ← Nat.shiftRight_eq_div_pow]
    exact hhigh
  rw [UInt16.toNat_toUInt8, UInt16.toNat_toUInt8] at hlow
  refine UInt16.toNat_inj.1 ?_
  omega

/-- **A byte keeps registers apart.** -/
theorem step_left_inj {register register' : UInt16} {byte : UInt8} :
    step register byte = step register' byte ↔ register = register' := by
  constructor
  · intro h
    have hsum : byte ^^^ register.toUInt8 = byte ^^^ register'.toUInt8 := by
      rw [← gather_step, ← gather_step, h]
    have hlow := (UInt8.xor_right_inj byte).1 hsum
    rw [step_eq, step_eq, hlow] at h
    exact eq_of_bytes_eq ((UInt16.xor_left_inj _).1 h) hlow
  · exact congrArg (step · byte)

/-- Different bytes lead to different registers. -/
theorem step_right_inj {register : UInt16} {byte byte' : UInt8} :
    step register byte = step register byte' ↔ byte = byte' := by
  constructor
  · intro h
    refine (UInt8.xor_left_inj register.toUInt8).1 ?_
    rw [← gather_step, ← gather_step, h]
  · exact congrArg (step register)

/-- **Two bytes in a row** are told apart by the register after them. -/
theorem step_step_inj {register : UInt16} {x x' y y' : UInt8} :
    step (step register x) y = step (step register x') y' ↔ x = x' ∧ y = y' := by
  constructor
  · intro h
    -- The two registers in between have the same high byte, and it shows the first byte.
    have hsum : y ^^^ (step register x).toUInt8 = y' ^^^ (step register x').toUInt8 := by
      rw [← gather_step, ← gather_step, h]
    have hhigh := h
    rw [step_eq, step_eq (step register x'), hsum] at hhigh
    have hx : x = x' := by
      refine (UInt8.xor_left_inj register.toUInt8).1 ?_
      rw [← gather_step, ← gather_step, (UInt16.xor_left_inj _).1 hhigh]
    subst hx
    exact ⟨rfl, step_right_inj.1 h⟩
  · rintro ⟨rfl, rfl⟩
    rfl

/-! ### Strings -/

/-- The first byte of a string is taken in first. -/
theorem update_cons (register : UInt16) (x : UInt8) (b : Bytes) :
    update register (x :: b) = update (step register x) b :=
  rfl

/-- Bytes keep registers apart. -/
theorem update_left_inj {register register' : UInt16} {b : Bytes} :
    update register b = update register' b ↔ register = register' := by
  induction b generalizing register register' with
  | nil => rfl
  | cons x b ih => rw [update_cons, update_cons, ih, step_left_inj]

/-- Strings that differ in one pair of adjacent bytes only are told apart. -/
theorem eq_of_update_eq {i : Nat} {b b' : Bytes} (h : b.SameOffPair i b') {register : UInt16}
    (heq : update register b' = update register b) : b' = b := by
  induction i generalizing b b' register with
  | zero =>
      match b, b', h.length_eq with
      | [], [], _ => rfl
      | [x], [x'], _ =>
          simp only [update_cons, update_nil] at heq
          rw [step_right_inj.1 heq]
      | x :: y :: b, x' :: y' :: b', _ =>
          obtain rfl := h.tail_tail_eq
          simp only [update_cons, update_left_inj] at heq
          obtain ⟨rfl, rfl⟩ := step_step_inj.1 heq
          rfl
  | succ i ih =>
      match b, b', h.length_eq with
      | [], [], _ => rfl
      | x :: b, x' :: b', _ =>
          obtain rfl := h.head_eq
          rw [update_cons, update_cons] at heq
          rw [ih h.tail heq]

/-- **The checksum tells apart** strings that differ in one pair of adjacent bytes only. -/
theorem eq_of_frame_eq {i : Nat} {b b' : Bytes} (h : b.SameOffPair i b') {extra : UInt8}
    (heq : frame b' extra = frame b extra) : b' = b :=
  eq_of_update_eq h (step_left_inj.1 heq)

end Crc

end Mavlink
