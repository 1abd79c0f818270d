import Mathlib.Tactic.Ring
import Mavlink.Number.Binary

/-!
# Numbers of the narrower format

Every number of the 32-bit format is a number of the 64-bit format, and narrowing undoes widening.

Both directions are rounded quotients, so the proof goes through one normal form. A magnitude is a
*step* and a *significand*: it counts `significand * 2 ^ step` units, where a significand that does
not fill its width stands at step zero only. Rounding a quotient that is a whole number of units in
normal form gives back that form, and the units of a magnitude determine it.

## Main results

* `Binary.Format.units_strictMono`: greater magnitudes count more units.
* `Binary.Format.round_eq_magnitude`: a quotient that needs no rounding is not changed by it.
* `Binary64.narrow_widen`: narrowing undoes widening, except on NaNs.
* `Binary64.exceedsNarrow_widen`: no widened number exceeds the narrower format.
-/

namespace Mavlink

namespace Binary

namespace Format

variable {f : Format}

/-! ### The normal form of a magnitude -/

/-- A step and a significand in **normal form**: the significand fits into its width, and fills it
unless the step is zero. -/
structure IsNormal (f : Format) (step significand : Nat) : Prop where
  lt : significand < 2 * 2 ^ f.fractionBits
  full : step = 0 ∨ 2 ^ f.fractionBits ≤ significand

/-- The magnitude with the given step and significand. -/
def ofParts (f : Format) (step significand : Nat) : Nat :=
  step * 2 ^ f.fractionBits + significand

/-- Every magnitude has a normal form. -/
theorem exists_normal (f : Format) (m : Nat) :
    ∃ step k, f.IsNormal step k ∧ m = f.ofParts step k := by
  have hpos : 0 < 2 ^ f.fractionBits := Nat.two_pow_pos _
  rcases Nat.lt_or_ge m (2 ^ f.fractionBits) with hm | hm
  · exact ⟨0, m, ⟨by omega, .inl rfl⟩, by rw [ofParts]; omega⟩
  · have hlt := Nat.mod_lt m hpos
    have hdiv := Nat.div_add_mod' m (2 ^ f.fractionBits)
    obtain ⟨e, he⟩ : ∃ e, m / 2 ^ f.fractionBits = e + 1 :=
      ⟨m / 2 ^ f.fractionBits - 1, by have := Nat.div_pos hm hpos; omega⟩
    rw [he, Nat.succ_mul] at hdiv
    exact ⟨e, 2 ^ f.fractionBits + m % 2 ^ f.fractionBits, ⟨by omega, .inr (by omega)⟩,
      by rw [ofParts]; omega⟩

/-- The units that a magnitude in normal form counts. -/
theorem units_ofParts {step k : Nat} (h : f.IsNormal step k) :
    f.units (f.ofParts step k) = k * 2 ^ step := by
  have hpos : 0 < 2 ^ f.fractionBits := Nat.two_pow_pos _
  have hlt := h.lt
  rw [units, significand, stepExponent, Nat.one_shiftLeft, Nat.shiftLeft_eq,
    Nat.shiftRight_eq_div_pow, ofParts]
  rcases Nat.lt_or_ge k (2 ^ f.fractionBits) with hk | hk
  · obtain rfl : step = 0 := h.full.resolve_right (by omega)
    have hzero : k / 2 ^ f.fractionBits = 0 := Nat.div_eq_of_lt hk
    rw [Nat.zero_mul, Nat.zero_add, if_pos hk, hzero]
  · have hsplit : step * 2 ^ f.fractionBits + k =
        (k - 2 ^ f.fractionBits) + 2 ^ f.fractionBits * (step + 1) := by
      rw [Nat.mul_succ, Nat.mul_comm]
      omega
    have hrest : k - 2 ^ f.fractionBits < 2 ^ f.fractionBits := by omega
    have hnot : ¬ k - 2 ^ f.fractionBits + 2 ^ f.fractionBits * (step + 1) <
        2 ^ f.fractionBits := by
      rw [Nat.mul_succ]
      omega
    rw [hsplit, if_neg hnot, Nat.add_mul_mod_self_left, Nat.mod_eq_of_lt hrest,
      Nat.add_mul_div_left _ _ hpos, Nat.div_eq_of_lt hrest, Nat.zero_add, Nat.add_sub_cancel]
    congr 1
    omega

/-- **Greater magnitudes count more units.** -/
theorem units_strictMono {m n : Nat} (h : m < n) : f.units m < f.units n := by
  obtain ⟨s, k, hk, rfl⟩ := f.exists_normal m
  obtain ⟨t, j, hj, rfl⟩ := f.exists_normal n
  rw [units_ofParts hk, units_ofParts hj]
  have hklt := hk.lt
  have hjlt := hj.lt
  rw [ofParts, ofParts] at h
  rcases Nat.lt_trichotomy s t with hst | rfl | hst
  · have hfull : 2 ^ f.fractionBits ≤ j := hj.full.resolve_left (by omega)
    calc k * 2 ^ s < 2 * 2 ^ f.fractionBits * 2 ^ s :=
          Nat.mul_lt_mul_of_pos_right hklt (Nat.two_pow_pos s)
      _ = 2 ^ f.fractionBits * 2 ^ (s + 1) := by ring
      _ ≤ 2 ^ f.fractionBits * 2 ^ t :=
          Nat.mul_le_mul_left _ (Nat.pow_le_pow_right (by decide) hst)
      _ ≤ j * 2 ^ t := Nat.mul_le_mul_right _ hfull
  · exact Nat.mul_lt_mul_of_pos_right (by omega) (Nat.two_pow_pos s)
  · have hfull : 2 ^ f.fractionBits ≤ k := hk.full.resolve_left (by omega)
    have hmul : (t + 1) * 2 ^ f.fractionBits ≤ s * 2 ^ f.fractionBits :=
      Nat.mul_le_mul_right _ hst
    rw [Nat.succ_mul] at hmul
    omega

/-- A larger magnitude has at least as many units. -/
theorem units_le_units {m n : Nat} (h : m ≤ n) : f.units m ≤ f.units n := by
  rcases Nat.lt_or_eq_of_le h with h | rfl
  · exact Nat.le_of_lt (units_strictMono h)
  · exact Nat.le_refl _

/-! ### Quotients that need no rounding -/

/-- A quotient without a remainder is not rounded. -/
theorem divNearestEven_mul {k d : Nat} (hd : 0 < d) : divNearestEven (k * d) d = k := by
  rw [divNearestEven, Nat.mul_div_cancel k hd, Nat.mul_mod_left, Nat.mul_zero, if_pos hd]

/-- The step of a normal form is found by counting the bits of its units. -/
theorem log2_sub_fractionBits {step k : Nat} (h : f.IsNormal step k) :
    (k * 2 ^ step).log2 - f.fractionBits = step := by
  have hlt : k < 2 ^ (f.fractionBits + 1) := by
    rw [Nat.pow_succ, Nat.mul_comm]
    exact h.lt
  rcases h.full with rfl | hfull
  · rw [Nat.pow_zero, Nat.mul_one]
    by_cases hk : k = 0
    · rw [hk, Nat.log2_zero, Nat.zero_sub]
    · have := (Nat.log2_lt hk).2 hlt
      omega
  · have hpos : 0 < 2 ^ f.fractionBits := Nat.two_pow_pos _
    have hne : k * 2 ^ step ≠ 0 := Nat.mul_ne_zero (by omega) (Nat.two_pow_pos step).ne'
    have hlog : (k * 2 ^ step).log2 = f.fractionBits + step := by
      refine (Nat.log2_eq_iff hne).2 ⟨?_, ?_⟩
      · rw [Nat.pow_add]
        exact Nat.mul_le_mul_right _ hfull
      · rw [Nat.add_right_comm, Nat.pow_add]
        exact Nat.mul_lt_mul_of_pos_right hlt (Nat.two_pow_pos step)
    rw [hlog, Nat.add_sub_cancel_left]

/-- **A quotient that needs no rounding** is not changed by it. -/
theorem round_eq_magnitude {n d step k : Nat} (hd : 0 < d) (h : f.IsNormal step k)
    (hn : n * f.unitsPerOne = k * 2 ^ step * d) (hle : f.ofParts step k ≤ f.infinity) :
    f.round n d = f.ofParts step k := by
  have hpos : 0 < d * 2 ^ step := Nat.mul_pos hd (Nat.two_pow_pos step)
  have hmul : k * 2 ^ step * d = k * (d * 2 ^ step) := by ring
  have hround : f.round n d = min (f.ofParts step k) f.infinity := by
    simp only [round]
    rw [hn, Nat.mul_div_cancel _ hd, log2_sub_fractionBits h, Nat.shiftLeft_eq, Nat.shiftLeft_eq,
      hmul, divNearestEven_mul hpos, ofParts]
  rw [hround, Nat.min_eq_left hle]

/-! ### From the narrower to the wider format -/

/-- One is made of at least one unit. -/
theorem unitsPerOne_pos (f : Format) : 0 < f.unitsPerOne := by
  rw [unitsPerOne, Nat.one_shiftLeft]
  exact Nat.two_pow_pos _

/-- The units of one are a power of two, which can be split like its exponent. -/
theorem unitsPerOne_eq {a b : Nat} (h : f.unitExponent = a + b) :
    f.unitsPerOne = 2 ^ a * 2 ^ b := by
  rw [unitsPerOne, Nat.one_shiftLeft, h, Nat.pow_add]

/-- The units of the two formats differ by 925 doublings. -/
theorem unitsPerOne_binary64 : binary64.unitsPerOne = 2 ^ 925 * binary32.unitsPerOne := by
  have hexponent : binary64.unitExponent = 925 + binary32.unitExponent := rfl
  rw [unitsPerOne_eq hexponent, unitsPerOne, Nat.one_shiftLeft]

/-- A significand of the narrower format, doubled often enough, has a normal form in the wider
one. -/
theorem exists_normal_binary64 {k j : Nat} (hk : k < 2 ^ 24) (hj : 52 ≤ j) :
    ∃ s q, binary64.IsNormal s q ∧ q * 2 ^ s = k * 2 ^ j ∧ s ≤ j := by
  by_cases hzero : k = 0
  · exact ⟨0, 0, ⟨Nat.mul_pos (by decide) (Nat.two_pow_pos _), .inl rfl⟩, by simp [hzero],
      Nat.zero_le j⟩
  · have hlog : k.log2 < 24 := (Nat.log2_lt hzero).2 hk
    obtain ⟨hlow, hhigh⟩ := (Nat.log2_eq_iff hzero).1 rfl
    obtain ⟨t, ht⟩ : ∃ t, k.log2 = t := ⟨_, rfl⟩
    rw [ht] at hlog hlow hhigh
    have hbits : binary64.fractionBits = t + (52 - t) := by
      show 52 = _
      omega
    refine ⟨t + j - 52, k * 2 ^ (52 - t), ⟨?_, .inr ?_⟩, ?_, by omega⟩
    · calc k * 2 ^ (52 - t) < 2 ^ (t + 1) * 2 ^ (52 - t) :=
            Nat.mul_lt_mul_of_pos_right hhigh (Nat.two_pow_pos _)
        _ = 2 * 2 ^ binary64.fractionBits := by
            rw [hbits, Nat.pow_add 2 t (52 - t)]
            ring
    · rw [hbits, Nat.pow_add]
      exact Nat.mul_le_mul_right _ hlow
    · rw [Nat.mul_assoc, ← Nat.pow_add]
      congr 2
      omega

/-- **Widening is exact**: the widened magnitude of a finite number is finite and counts the same
number, in the smaller units of the wider format. -/
theorem units_round_widen {m : Nat} (hm : m < binary32.infinity) :
    binary64.round (binary32.units m) binary32.unitsPerOne < binary64.infinity ∧
      binary64.units (binary64.round (binary32.units m) binary32.unitsPerOne) =
        binary32.units m * 2 ^ 925 := by
  obtain ⟨step, k, hk, rfl⟩ := binary32.exists_normal m
  have hinf : binary32.infinity = 255 * 2 ^ 23 := rfl
  have hwide : binary64.infinity = 2047 * 2 ^ 52 := rfl
  have hklt : k < 2 * 2 ^ 23 := hk.lt
  have hstep : step < 255 := by
    rw [hinf, ofParts] at hm
    have hbits : step * 2 ^ binary32.fractionBits = step * 2 ^ 23 := rfl
    omega
  obtain ⟨s, q, hq, heq, hs⟩ :=
    exists_normal_binary64 (k := k) (j := step + 925) (by omega) (by omega)
  have hqlt : q < 2 * 2 ^ 52 := hq.lt
  have hfinite : binary64.ofParts s q < binary64.infinity := by
    have hbits : s * 2 ^ binary64.fractionBits = s * 2 ^ 52 := rfl
    rw [hwide, ofParts]
    omega
  have hunits : binary32.units (binary32.ofParts step k) * 2 ^ 925 = q * 2 ^ s := by
    rw [units_ofParts hk, heq, Nat.pow_add, Nat.mul_assoc]
  have hquotient : binary32.units (binary32.ofParts step k) * binary64.unitsPerOne =
      q * 2 ^ s * binary32.unitsPerOne := by
    rw [unitsPerOne_binary64, ← hunits, Nat.mul_assoc]
  rw [round_eq_magnitude binary32.unitsPerOne_pos hq hquotient (Nat.le_of_lt hfinite)]
  exact ⟨hfinite, by rw [units_ofParts hq, hunits]⟩

/-- Narrowing the units of a widened magnitude gives the magnitude back. -/
theorem round_narrow {m : Nat} (hm : m < binary32.infinity) :
    binary32.round (binary32.units m * 2 ^ 925) binary64.unitsPerOne = m := by
  obtain ⟨step, k, hk, rfl⟩ := binary32.exists_normal m
  refine round_eq_magnitude binary64.unitsPerOne_pos hk ?_ (Nat.le_of_lt hm)
  rw [units_ofParts hk, unitsPerOne_binary64, Nat.mul_assoc]

end Format

end Binary

open Binary

namespace Binary32

/-- A number is its sign and its magnitude. -/
theorem ofMagnitude_magnitude (x : Binary32) : ofMagnitude x.isNegative x.magnitude = x := by
  have hweight : Format.binary32.signWeight = 2 ^ 31 := rfl
  have hlt := x.bits.toNat_lt
  refine (congrArg Binary32.mk (UInt32.toNat_inj.mp ?_) : _ = Binary32.mk x.bits)
  rw [UInt32.toNat_ofNat', isNegative, magnitude, hweight]
  by_cases hneg : 2 ^ 31 ≤ x.bits.toNat
  · rw [if_pos (decide_eq_true hneg)]
    omega
  · rw [if_neg (by rw [decide_eq_false hneg]; decide)]
    omega

/-- A magnitude leaves the highest bit to the sign. -/
theorem magnitude_lt (x : Binary32) : x.magnitude < 2 ^ 31 :=
  Nat.mod_lt _ (by decide)

end Binary32

namespace Binary64

/-! ### Sign and magnitude -/

section Parts

variable {m : Nat} (negative : Bool)

/-- The bits of a number are its sign and its magnitude, if there is room for both. -/
theorem toNat_bits_ofMagnitude (hm : m < 2 ^ 63) :
    (ofMagnitude negative m).bits.toNat = (if negative then 2 ^ 63 else 0) + m := by
  have hweight : Format.binary64.signWeight = 2 ^ 63 := rfl
  rw [ofMagnitude, UInt64.toNat_ofNat', hweight]
  refine Nat.mod_eq_of_lt ?_
  split <;> omega

/-- The magnitude that a number is made of is found again. -/
theorem magnitude_ofMagnitude (hm : m < 2 ^ 63) : (ofMagnitude negative m).magnitude = m := by
  have hweight : Format.binary64.signWeight = 2 ^ 63 := rfl
  rw [magnitude, toNat_bits_ofMagnitude negative hm, hweight]
  split <;> omega

/-- The sign that a number is made of is found again. -/
theorem isNegative_ofMagnitude (hm : m < 2 ^ 63) :
    (ofMagnitude negative m).isNegative = negative := by
  have hweight : Format.binary64.signWeight = 2 ^ 63 := rfl
  rw [isNegative, toNat_bits_ofMagnitude negative hm, hweight]
  cases negative with
  | false => exact decide_eq_false (by rw [if_neg Bool.false_ne_true]; omega)
  | true => exact decide_eq_true (by rw [if_pos rfl]; omega)

end Parts

/-! ### Widening and narrowing -/

/-- A finite number is widened by counting its units in the wider format. -/
theorem widen_of_finite {x : Binary32} (h : x.magnitude < Format.binary32.infinity) :
    widen x = ofMagnitude x.isNegative
      (Format.binary64.round (Format.binary32.units x.magnitude) Format.binary32.unitsPerOne) := by
  simp only [widen]
  rw [if_pos h]

/-- Infinity is widened to infinity of the same sign. -/
theorem widen_of_infinite {x : Binary32} (h : x.magnitude = Format.binary32.infinity) :
    widen x = ofMagnitude x.isNegative Format.binary64.infinity := by
  simp only [widen]
  rw [if_neg (by omega), if_pos h]

/-- The magnitudes of numbers, infinity included, leave room for the sign. -/
theorem infinity_binary64_lt : Format.binary64.infinity < 2 ^ 63 := by
  decide

/-- **A widened finite number is finite.** -/
theorem magnitude_widen_lt {x : Binary32} (h : x.magnitude < Format.binary32.infinity) :
    (widen x).magnitude < Format.binary64.infinity := by
  obtain ⟨hfinite, -⟩ := Format.units_round_widen h
  rw [widen_of_finite h, magnitude_ofMagnitude _ (Nat.lt_trans hfinite infinity_binary64_lt)]
  exact hfinite

/-- **Widening changes the unit only.** -/
theorem units_widen {x : Binary32} (h : x.magnitude < Format.binary32.infinity) :
    Format.binary64.units (widen x).magnitude =
      Format.binary32.units x.magnitude * 2 ^ 925 := by
  obtain ⟨hfinite, hunits⟩ := Format.units_round_widen h
  rw [widen_of_finite h, magnitude_ofMagnitude _ (Nat.lt_trans hfinite infinity_binary64_lt)]
  exact hunits

/-- **A widened NaN is a NaN.** -/
theorem isNaN_widen {x : Binary32} (h : Format.binary32.infinity < x.magnitude) :
    (widen x).isNaN = true := by
  have hinf : Format.binary32.infinity = 255 * 2 ^ 23 := rfl
  have hwide : Format.binary64.infinity = 2047 * 2 ^ 52 := rfl
  have hquiet : (1 <<< 22 : Nat) < 2 ^ 23 := by decide
  have hlt := x.magnitude_lt
  have hfraction : (x.magnitude - Format.binary32.infinity) ||| (1 <<< 22) < 2 ^ 23 :=
    Nat.or_lt_two_pow (by omega) hquiet
  have hquietLe : (1 <<< 22 : Nat) ≤ (x.magnitude - Format.binary32.infinity) ||| (1 <<< 22) :=
    Nat.right_le_or
  have hpos : 0 < (1 <<< 22 : Nat) := by decide
  simp only [widen]
  rw [if_neg (by omega), if_neg (by omega), isNaN, Nat.shiftLeft_eq _ 29,
    magnitude_ofMagnitude _ (by omega)]
  exact decide_eq_true (by omega)

/-- **Narrowing undoes widening**, except on NaNs. -/
theorem narrow_widen {x : Binary32} (h : x.magnitude ≤ Format.binary32.infinity) :
    (widen x).narrow = x := by
  rcases Nat.lt_or_eq_of_le h with h | h
  · have hfinite := magnitude_widen_lt h
    have hnegative : (widen x).isNegative = x.isNegative := by
      obtain ⟨hround, -⟩ := Format.units_round_widen h
      rw [widen_of_finite h, isNegative_ofMagnitude _ (Nat.lt_trans hround infinity_binary64_lt)]
    simp only [narrow]
    rw [if_pos hfinite, units_widen h, Format.round_narrow h, hnegative,
      Binary32.ofMagnitude_magnitude]
  · have hmagnitude : (widen x).magnitude = Format.binary64.infinity := by
      rw [widen_of_infinite h, magnitude_ofMagnitude _ infinity_binary64_lt]
    have hnegative : (widen x).isNegative = x.isNegative := by
      rw [widen_of_infinite h, isNegative_ofMagnitude _ infinity_binary64_lt]
    simp only [narrow]
    rw [hmagnitude, if_neg (Nat.lt_irrefl _), if_pos rfl, hnegative, ← h,
      Binary32.ofMagnitude_magnitude]

/-- **No widened number exceeds the narrower format.** -/
theorem exceedsNarrow_widen {x : Binary32} (h : x.magnitude ≤ Format.binary32.infinity) :
    (widen x).exceedsNarrow = false := by
  rcases Nat.lt_or_eq_of_le h with h | h
  · have hmax : (⟨0x7f7fffff⟩ : Binary32).magnitude < Format.binary32.infinity := by decide
    have hle : x.magnitude ≤ (⟨0x7f7fffff⟩ : Binary32).magnitude := Nat.le_of_lt_succ h
    have hnot : ¬ maxNarrow.magnitude < (widen x).magnitude := by
      intro hlt
      have hunits := Format.units_strictMono (f := Format.binary64) hlt
      rw [maxNarrow, units_widen hmax, units_widen h] at hunits
      have := Nat.mul_le_mul_right (2 ^ 925) (Format.units_le_units (f := Format.binary32) hle)
      omega
    rw [exceedsNarrow, decide_eq_false hnot, Bool.and_false]
  · have hmagnitude : (widen x).magnitude = Format.binary64.infinity := by
      rw [widen_of_infinite h, magnitude_ofMagnitude _ infinity_binary64_lt]
    have hnot : ¬ (widen x).magnitude < Format.binary64.infinity := by omega
    rw [exceedsNarrow, isFinite, decide_eq_false hnot, Bool.false_and]

/-- What is not a number does not exceed the narrower format. -/
theorem exceedsNarrow_of_isNaN {x : Binary64} (h : x.isNaN = true) : x.exceedsNarrow = false := by
  have hnan : Format.binary64.infinity < x.magnitude := of_decide_eq_true h
  have hnot : ¬ x.magnitude < Format.binary64.infinity := by omega
  rw [exceedsNarrow, isFinite, decide_eq_false hnot, Bool.false_and]

end Binary64

end Mavlink
