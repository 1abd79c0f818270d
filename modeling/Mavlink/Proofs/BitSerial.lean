import Mavlink.Proofs.Checksum

/-!
# The checksum, one bit at a time

The textbook form of the checksum adds a byte to the low end of the register and then shifts the
register eight times by one bit. Each bit that is shifted out adds the polynomial to what is left
if it was set (`shiftBit`). The form in use takes the eight shifts at once: the low byte of the sum
is spread into a word, and the word is added to the high byte, shifted down (`shiftByte`).

The two are compared as additive functions, where registers are added bit by bit without carry. A
shift by one bit is additive although it branches, since the branch looks at one bit and adds a
constant. Spreading is additive since it is made of shifts. An additive function is known by its
values on the sixteen registers with one bit, so that is where eight shifts by one bit have to be
compared with one shift by a byte.

## Main results

* `Additive.eq_of_bits`: additive functions that agree on single bits agree.
* `repeat_shiftBit_eq_shiftByte`: eight shifts by one bit are one shift by a byte.
* `step_eq_serialStep`, `update_eq_foldl_serialStep`: taking in bytes is taking in their bits.
* `update_chunks_eq_serial`: so the checksum of a string in chunks is the bit-serial one, and that
  of a frame as well.
-/

namespace Mavlink

namespace Crc

/-! ### Additive functions -/

/-- A function of registers is **additive** if it takes sums to sums. Bits are added without
carry. -/
def Additive (f : UInt16 → UInt16) : Prop :=
  ∀ a b, f (a ^^^ b) = f a ^^^ f b

/-- The register with one bit set. -/
def bit (i : Nat) : UInt16 :=
  1 <<< UInt16.ofNat i

/-- The register with one bit set has this bit and no other. -/
theorem testBit_bit {i : Nat} (h : i < 16) (j : Nat) :
    (bit i).toNat.testBit j = decide (i = j) := by
  have hbit : ∀ i < 16, (bit i).toNat = 2 ^ i := by decide
  rw [hbit i h, Nat.testBit_two_pow]

/-- A register has no bits from 16 on. -/
theorem testBit_eq_false (w : UInt16) {j : Nat} (h : 16 ≤ j) : w.toNat.testBit j = false :=
  Nat.testBit_lt_two_pow (Nat.lt_of_lt_of_le w.toNat_lt (Nat.pow_le_pow_right Nat.two_pos h))

namespace Additive

variable {f g : UInt16 → UInt16}

/-- An additive function keeps the empty register. -/
theorem map_zero (hf : Additive f) : f 0 = 0 := by
  have h := hf 0 0
  rwa [UInt16.xor_self, UInt16.xor_self] at h

/-- Doing an additive function several times is additive. -/
theorem iterate (hf : Additive f) (n : Nat) : Additive (Nat.repeat f n) := by
  induction n with
  | zero => exact fun _ _ => rfl
  | succ n ih =>
      intro a b
      show f (Nat.repeat f n (a ^^^ b)) = f (Nat.repeat f n a) ^^^ f (Nat.repeat f n b)
      rw [ih, hf]

/-- Additive functions that agree on single bits agree on the registers without bits from `k`
on. The induction takes the highest bit off. -/
theorem eq_of_testBit (hf : Additive f) (hg : Additive g) (hbits : ∀ i < 16, f (bit i) = g (bit i))
    {k : Nat} (hk : k ≤ 16) {w : UInt16} (hw : ∀ j, k ≤ j → w.toNat.testBit j = false) :
    f w = g w := by
  induction k generalizing w with
  | zero =>
      have hzero : w.toNat = 0 := Nat.eq_of_testBit_eq fun j => by
        rw [hw j (Nat.zero_le j), Nat.zero_testBit]
      obtain rfl : w = 0 := UInt16.toNat_inj.1 hzero
      rw [hf.map_zero, hg.map_zero]
  | succ k ih =>
      have hk' : k ≤ 16 := Nat.le_of_succ_le hk
      cases hhigh : w.toNat.testBit k with
      | false =>
          refine ih hk' fun j hj => ?_
          obtain rfl | hlt := Nat.eq_or_lt_of_le hj
          · exact hhigh
          · exact hw j hlt
      | true =>
          have hrest : ∀ j, k ≤ j → (w ^^^ bit k).toNat.testBit j = false := by
            intro j hj
            rw [UInt16.toNat_xor, Nat.testBit_xor, testBit_bit hk]
            obtain rfl | hlt := Nat.eq_or_lt_of_le hj
            · rw [hhigh, decide_eq_true rfl]
              rfl
            · rw [hw j hlt, decide_eq_false (Nat.ne_of_lt hlt)]
              rfl
          have hsum : (w ^^^ bit k) ^^^ bit k = w := by
            rw [UInt16.xor_assoc, UInt16.xor_self, UInt16.xor_zero]
          calc f w = f (w ^^^ bit k) ^^^ f (bit k) := by rw [← hf, hsum]
            _ = g (w ^^^ bit k) ^^^ g (bit k) := by rw [ih hk' hrest, hbits k hk]
            _ = g w := by rw [← hg, hsum]

/-- **Additive functions that agree on single bits agree.** -/
theorem eq_of_bits (hf : Additive f) (hg : Additive g) (hbits : ∀ i < 16, f (bit i) = g (bit i))
    (w : UInt16) : f w = g w :=
  hf.eq_of_testBit hg hbits (Nat.le_refl 16) fun _ => testBit_eq_false w

end Additive

/-! ### A shift by one bit -/

/-- What the bit that is shifted out adds to the rest of the register. -/
def feedback (w : UInt16) : UInt16 :=
  if w &&& 1 = 1 then polynomial else 0

/-- A shift by one bit adds what the lost bit feeds back to the bits that are left. -/
theorem shiftBit_eq (w : UInt16) : shiftBit w = (w >>> 1) ^^^ feedback w := by
  rw [shiftBit, feedback]
  split
  · rfl
  · exact UInt16.xor_zero.symm

/-- The lowest bit of a register is clear or set. -/
theorem and_one_eq (w : UInt16) : w &&& 1 = 0 ∨ w &&& 1 = 1 := by
  have hmod : (w &&& 1).toNat = w.toNat % 2 := by
    rw [UInt16.toNat_and]
    exact Nat.and_one_is_mod _
  obtain h | h := Nat.mod_two_eq_zero_or_one w.toNat
  · exact .inl (UInt16.toNat_inj.1 (hmod.trans h))
  · exact .inr (UInt16.toNat_inj.1 (hmod.trans h))

/-- The lowest bit of a sum is the sum of the lowest bits. -/
theorem xor_and_one (a b : UInt16) : (a ^^^ b) &&& 1 = (a &&& 1) ^^^ (b &&& 1) := by
  refine UInt16.toNat_inj.1 ?_
  rw [UInt16.toNat_and, UInt16.toNat_xor, UInt16.toNat_xor, UInt16.toNat_and, UInt16.toNat_and,
    Nat.and_xor_distrib_right]

/-- Two bits that are both set add the polynomial twice, which is not at all. -/
theorem feedback_xor (a b : UInt16) : feedback (a ^^^ b) = feedback a ^^^ feedback b := by
  rw [feedback, feedback, feedback, xor_and_one]
  obtain ha | ha := and_one_eq a <;> obtain hb | hb := and_one_eq b <;> rw [ha, hb] <;> decide

/-- A shift by one bit is additive. -/
theorem additive_shiftBit : Additive shiftBit := by
  intro a b
  rw [shiftBit_eq, shiftBit_eq, shiftBit_eq, feedback_xor, UInt16.shiftRight_xor]
  ac_rfl

/-! ### A shift by a byte -/

/-- Shifts a byte out, and adds the word that it is spread into. -/
def shiftByte (register : UInt16) : UInt16 :=
  (register >>> 8) ^^^ spread register.toUInt8

/-- A sum of bytes is spread as the sum of what they are spread into. -/
theorem spread_xor (a b : UInt8) : spread (a ^^^ b) = spread a ^^^ spread b := by
  simp only [spread, UInt8.shiftLeft_xor, UInt8.toUInt16_xor, UInt16.shiftLeft_xor,
    UInt16.shiftRight_xor]
  ac_rfl

/-- A shift by a byte is additive. -/
theorem additive_shiftByte : Additive shiftByte := by
  intro a b
  simp only [shiftByte, UInt16.shiftRight_xor, UInt16.toUInt8_xor, spread_xor]
  ac_rfl

/-- **Eight shifts by one bit** are one shift by a byte. -/
theorem repeat_shiftBit_eq_shiftByte (register : UInt16) :
    Nat.repeat shiftBit 8 register = shiftByte register := by
  refine (additive_shiftBit.iterate 8).eq_of_bits additive_shiftByte ?_ register
  decide

/-- A byte has no high byte. -/
theorem toUInt16_shiftRight (byte : UInt8) : byte.toUInt16 >>> 8 = 0 := by
  refine UInt16.toNat_inj.1 ?_
  rw [UInt16.toNat_shiftRight, UInt8.toNat_toUInt16]
  show byte.toNat >>> 8 = 0
  rw [Nat.shiftRight_eq_div_pow]
  exact Nat.div_eq_of_lt byte.toNat_lt

/-- A byte is taken in by adding it to the low end of the register and shifting it out. -/
theorem step_eq_shiftByte (register : UInt16) (byte : UInt8) :
    step register byte = shiftByte (register ^^^ byte.toUInt16) := by
  rw [step_eq, shiftByte, UInt16.shiftRight_xor, toUInt16_shiftRight, UInt16.xor_zero,
    UInt16.toUInt8_xor, UInt8.toUInt8_toUInt16, UInt8.xor_comm]

/-- **A byte is taken in as its bits are.** -/
theorem step_eq_serialStep (register : UInt16) (byte : UInt8) :
    step register byte = serialStep register byte := by
  rw [step_eq_shiftByte, serialStep, repeat_shiftBit_eq_shiftByte]

/-! ### Strings -/

/-- Bytes are taken in as their bits are, from any register on. -/
theorem update_eq_foldl_serialStep (register : UInt16) (b : Bytes) :
    update register b = b.foldl serialStep register := by
  induction b generalizing register with
  | nil => rfl
  | cons x b ih => rw [update_cons, step_eq_serialStep, ih, List.foldl_cons]

/-- The checksum of a string is the bit-serial one. -/
theorem update_start_eq_serial (b : Bytes) : update start b = serial b :=
  update_eq_foldl_serialStep start b

/-- Chunks are taken in one after the other as the string that they are cut from. -/
theorem foldl_update (register : UInt16) (chunks : List Bytes) :
    chunks.foldl update register = update register chunks.flatten := by
  induction chunks generalizing register with
  | nil => rfl
  | cons b chunks ih => rw [List.foldl_cons, ih, List.flatten_cons, update_append]

/-- The checksum of a frame is that of its bytes with the extra byte behind them. -/
theorem frame_eq_update (b : Bytes) (extra : UInt8) : frame b extra = update start (b ++ [extra]) :=
  (update_append start b [extra]).symm

/-- **The checksum is the bit-serial one**, however a string is cut into chunks, and the checksum of
a frame is that of its bytes with the extra byte behind them. -/
theorem update_chunks_eq_serial (chunks : List Bytes) (b : Bytes) (extra : UInt8) :
    chunks.foldl update start = serial chunks.flatten ∧ frame b extra = serial (b ++ [extra]) := by
  constructor
  · rw [foldl_update, update_start_eq_serial]
  · rw [frame_eq_update, update_start_eq_serial]

/-- The published check value of the code, over the digits from 1 to 9. -/
example : serial [0x31, 0x32, 0x33, 0x34, 0x35, 0x36, 0x37, 0x38, 0x39] = 0x6F91 := by
  decide +kernel

end Crc

end Mavlink
