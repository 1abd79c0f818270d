import Mavlink.Payload.InPlace
import Mavlink.Proofs.Access.Basic
import Mavlink.Proofs.Payload.Length

/-!
# Elements in place

One value read from and written to the buffer of a payload, as it is done there: the bytes of an
element are widened to eight and the number in them is cast to the type; and a value is turned into
the raw bits of a number of 64 bits, whose low bytes are copied over the element.

No type is wider than eight bytes, so an element can be widened, and there are enough low bytes. An
integer is in the range of its type exactly if a shift by the width of the type leaves nothing of
it, or if it lies between the bounds of the width.

## Main results

* `Checked.readScalar_eq`: one value is read.
* `Checked.rawUnsigned_eq`, `Checked.rawSigned_eq`: which integers a type takes.
* `Checked.writeScalar_eq`: one value is written.
-/

namespace Mavlink

/-! ### Raw bits -/

namespace Bytes

/-- The low bytes of a number are those of its remainder. -/
theorem littleEndian_mod (w n : Nat) : littleEndian w (n % count w) = littleEndian w n := by
  have hread := littleEndian_fromLittleEndian (littleEndian w n)
  rwa [length_littleEndian, fromLittleEndian_littleEndian_mod] at hread

/-- The first bytes of a number are those of the number with fewer bytes. -/
theorem take_littleEndian {w k : Nat} (h : w ≤ k) (n : Nat) :
    (littleEndian k n).take w = littleEndian w n := by
  induction w generalizing k n with
  | zero => rfl
  | succ w ih =>
      obtain ⟨k, rfl⟩ := Nat.exists_eq_add_one_of_ne_zero (Nat.ne_zero_of_lt h)
      rw [littleEndian, littleEndian, List.take_succ_cons, ih (Nat.le_of_succ_le_succ h)]

/-- The bytes before the first zero byte are those up to its position. -/
theorem untilZero_eq_take (b : Bytes) : b.untilZero = b.take (b.findIdx (· = 0)) := by
  induction b with
  | nil => rfl
  | cons x b ih =>
      rw [untilZero, List.takeWhile_cons, List.findIdx_cons]
      by_cases hx : x = 0
      · simp [hx]
      · simpa [hx, untilZero] using ih

end Bytes

namespace Checked

variable {ε : Type}

/-- **A cast to a signed type** keeps the number that the type reads. -/
theorem castSigned_eq {t : WireType} (ht : t.isSigned = true) (n : Nat) :
    castSigned t (UInt64.ofNat n) = Int64.ofInt (t.integerOfRaw n) := by
  have hsize : Int64.size = 2 ^ 64 := rfl
  have hkeep : ∀ m : Nat, 0 < m → m ≤ 2 ^ 64 →
      ((n : Int).bmod m).bmod Int64.size = (n : Int).bmod m := by
    intro m hpos hm
    have hle := Int.le_bmod (x := n) hpos
    have hlt := Int.bmod_lt (x := n) hpos
    exact Int.bmod_eq_of_le (by omega) (by omega)
  have hraw : t.integerOfRaw n = (n : Int).bmod (Bytes.count t.size) := if_pos ht
  have hcount : Bytes.count t.size ≤ 2 ^ 64 := by
    rw [Bytes.count_eq]
    have hle := t.size_le
    exact Nat.pow_le_pow_right (by decide) (by omega)
  refine Int64.toInt_inj.1 ?_
  rw [hraw, Int64.toInt_ofInt, hkeep _ (Bytes.count_pos _) hcount]
  cases t with
  | int8 | int16 | int32 | int64 => simp [castSigned, WireType.size, Bytes.count]
  | _ => exact absurd ht (by decide)

/-- **A text is read** from any bytes. -/
theorem readText_eq (b : Bytes) : (readText b : Checked ε String) = .ok (Text.ofField b) := by
  rw [readText, range_front List.findIdx_le_length, ok_bind, ← Bytes.untilZero_eq_take]
  rfl

/-- **One value is read** from at most eight bytes. -/
theorem readScalar_eq (t : WireType) {b : Bytes} (h : b.length ≤ 8) :
    (readScalar t b : Checked ε Scalar) = .ok (t.read b) := by
  rw [readScalar, copyInto_zeros rfl h, ok_bind, Bytes.fromLittleEndian_fit h]
  cases t with
  | uint8 | uint16 | uint32 | uint64 | double => rfl
  | int8 | int16 | int32 | int64 =>
      dsimp only
      rw [castSigned_eq rfl]
      rfl
  | float =>
      dsimp only
      rw [UInt64.toUInt32_ofNat']
      rfl
  | char =>
      dsimp only
      rw [readText_eq]
      rfl

/-! ### Elements in place -/

/-- The bits of a signed number are those of its remainder. -/
theorem toNat_toUInt64 (i : Int64) : (i.toUInt64.toNat : Int) = i.toInt % (2 ^ 64 : Nat) := by
  have hlt := i.toUInt64.toNat_lt
  have hbits : i.toInt = (i.toUInt64.toNat : Int).bmod (2 ^ 64) := BitVec.toInt_eq_toNat_bmod _
  rw [hbits, Int.bmod_emod, Int.emod_eq_of_lt (Int.natCast_nonneg _) (by omega)]

/-- Which integers are found as numbers of 64 bits without a sign. -/
theorem toUInt64?_eq {v : Scalar} {n : Int} (hv : v.number? = some n) :
    n < 2 ^ 64 ∧ v.toUInt64? = if 0 ≤ n then some (UInt64.ofNat n.toNat) else none := by
  cases v with
  | uint u =>
      obtain rfl := Option.some.inj hv
      have hlt := u.toNat_lt
      refine ⟨by omega, ?_⟩
      rw [if_pos (Int.natCast_nonneg _), Int.toNat_natCast, UInt64.ofNat_toNat]
      rfl
  | int i =>
      obtain rfl := Option.some.inj hv
      have hlt := i.toInt_lt
      refine ⟨by omega, ?_⟩
      have hsign : 0 ≤ i ↔ 0 ≤ i.toInt := Int64.le_iff_toInt_le
      rw [Scalar.toUInt64?]
      by_cases hi : 0 ≤ i.toInt
      · have hbits := toNat_toUInt64 i
        have hnat : i.toInt.toNat < 2 ^ 64 := by omega
        rw [Int.emod_eq_of_lt hi (by omega)] at hbits
        rw [if_pos (hsign.2 hi), if_pos hi, Option.some.injEq,
          ← UInt64.toNat_inj, UInt64.toNat_ofNat_of_lt' hnat]
        omega
      · rw [if_neg (hsign.not.2 hi), if_neg hi]
  | _ => cases hv

/-- Which integers are found as numbers of 64 bits with a sign. -/
theorem toInt64?_eq {v : Scalar} {n : Int} (hv : v.number? = some n) :
    -2 ^ 63 ≤ n ∧ v.toInt64? = if n < 2 ^ 63 then some (Int64.ofInt n) else none := by
  cases v with
  | uint u =>
      obtain rfl := Option.some.inj hv
      have hbound : (0x8000000000000000 : UInt64).toNat = 2 ^ 63 := rfl
      have hcast : u.toInt64 = Int64.ofInt u.toNat := by
        rw [← Int64.toInt_inj, Int64.toInt_ofInt]
        exact BitVec.toInt_eq_toNat_bmod _
      refine ⟨by omega, ?_⟩
      rw [Scalar.toInt64?, hcast]
      by_cases hu : u.toNat < 2 ^ 63
      · rw [if_pos (UInt64.lt_iff_toNat_lt.2 (hbound ▸ hu)), if_pos (by omega)]
      · rw [if_neg (UInt64.lt_iff_toNat_lt.not.2 (hbound ▸ hu)), if_neg (by omega)]
  | int i =>
      obtain rfl := Option.some.inj hv
      have hlt := i.toInt_lt
      refine ⟨i.le_toInt, ?_⟩
      rw [Scalar.toInt64?, if_pos (by omega), Int64.ofInt_toInt]
  | _ => cases hv

/-- **An unsigned type takes the integers of its range.** -/
theorem rawUnsigned_eq {t : WireType} (ht : t.isSigned = false) {v : Scalar} {n : Int}
    (hv : v.number? = some n) : rawUnsigned t v =
      if t.InRange n then .ok (UInt64.ofNat n.toNat) else .error (.own (.outOfRange v t)) := by
  obtain ⟨hlt, hfound⟩ := toUInt64?_eq hv
  have hrange : t.InRange n ↔ 0 ≤ n ∧ n < (2 ^ (t.size * 8) : Nat) := by
    rw [WireType.InRange, if_neg (ne_true_of_eq_false ht), Nat.mul_comm]
  rw [rawUnsigned, hfound]
  by_cases hn : 0 ≤ n
  · have hsmall : n.toNat < 2 ^ 64 := by omega
    have hnat : (UInt64.ofNat n.toNat).toNat = n.toNat := UInt64.toNat_ofNat_of_lt' hsmall
    rw [if_pos hn, orOutOfRange, ok_bind]
    dsimp only
    by_cases hbits : t.size * 8 < 64
    · have hshift : UInt64.ofNat n.toNat >>> UInt64.ofNat (t.size * 8) = 0 ↔ t.InRange n := by
        have hamount : (UInt64.ofNat (t.size * 8)).toNat = t.size * 8 :=
          UInt64.toNat_ofNat_of_lt' (Nat.lt_trans hbits (by decide))
        rw [← UInt64.toNat_inj, UInt64.toNat_shiftRight, hnat, hamount, Nat.mod_eq_of_lt hbits,
          Nat.shiftRight_eq_div_pow, UInt64.toNat_zero, Nat.div_eq_zero_iff_lt (Nat.two_pow_pos _),
          hrange]
        omega
      rw [if_pos hbits, shiftRight, if_pos hbits, ok_bind]
      by_cases hin : t.InRange n
      · rw [if_neg (not_not_intro (hshift.2 hin)), if_pos hin]
        rfl
      · rw [if_pos (hshift.not.2 hin), if_neg hin]
    · have hin : t.InRange n := by
        have hpow : 2 ^ 64 ≤ 2 ^ (t.size * 8) :=
          Nat.pow_le_pow_right (by decide) (Nat.le_of_not_lt hbits)
        rw [hrange]
        omega
      rw [if_neg hbits, if_pos hin]
      rfl
  · rw [if_neg hn, if_neg (fun h => hn (hrange.1 h).1)]
    rfl

/-- **A signed type takes the integers of its range.** -/
theorem rawSigned_eq {t : WireType} (ht : t.isSigned = true) {v : Scalar} {n : Int}
    (hv : v.number? = some n) : rawSigned t v =
      if t.InRange n then .ok (Int64.ofInt n).toUInt64 else .error (.own (.outOfRange v t)) := by
  obtain ⟨hle, hfound⟩ := toInt64?_eq hv
  have hsize := t.size_le
  have hpos := t.size_pos
  have hrange : t.InRange n ↔
      -(2 ^ (t.size * 8 - 1) : Nat) ≤ n ∧ n < (2 ^ (t.size * 8 - 1) : Nat) := by
    rw [WireType.InRange, if_pos ht, Nat.mul_comm]
  have hpower : (power (t.size * 8 - 1) : Checked EncodeFault Int) =
      .ok (2 ^ (t.size * 8 - 1) : Nat) := by
    rw [power, if_pos (by omega), Nat.one_shiftLeft]
  have hbound : 2 ^ (t.size * 8 - 1) ≤ 2 ^ 63 := Nat.pow_le_pow_right (by decide) (by omega)
  rw [rawSigned, hfound]
  by_cases hn : n < 2 ^ 63
  · have hcast : (Int64.ofInt n).toInt = n := Int64.toInt_ofInt_of_le hle hn
    rw [if_pos hn, orOutOfRange, ok_bind]
    dsimp only
    rw [hpower, ok_bind, ok_bind, hcast]
    by_cases hin : t.InRange n
    · rw [if_pos hin, if_neg]
      · rfl
      · rw [hrange] at hin
        omega
    · rw [if_neg hin, if_pos]
      rw [hrange] at hin
      omega
  · have hout : ¬ t.InRange n := by
      rw [hrange]
      omega
    rw [if_neg hn, if_neg hout]
    rfl

/-- Raw bits that denote an integer, up to 64 bits, have its bytes in a type. -/
theorem littleEndian_toNat {n : Int} {raw : UInt64} (h : (raw.toNat : Int) = n % (2 ^ 64 : Nat))
    (t : WireType) :
    Bytes.littleEndian t.size raw.toNat = Bytes.littleEndian t.size (t.rawOfInteger n) := by
  have hdvd : ((Bytes.count t.size : Nat) : Int) ∣ (2 ^ 64 : Nat) := by
    rw [Bytes.count_eq]
    have hsize := t.size_le
    exact Int.natCast_dvd_natCast.2 (Nat.pow_dvd_pow 2 (by omega))
  have hmod : raw.toNat % Bytes.count t.size = t.rawOfInteger n := by
    rw [← Int.ofNat_inj, Int.natCast_emod, h, Int.emod_emod_of_dvd n hdvd, t.natCast_rawOfInteger]
  rw [← hmod, Bytes.littleEndian_mod]

/-- Integer types take their raw bits from integers only. -/
theorem raw_of_isInteger {t : WireType} (ht : t.isInteger = true) (v : Scalar) :
    raw t v = match v.number? with
      | none => .error (.own (.typeMismatch .integer v.kind))
      | some _ => if t.isSigned then rawSigned t v else rawUnsigned t v := by
  cases t <;> first | exact absurd ht (by decide) | cases v <;> rfl

/-- **An integer type takes the integers of its range**, and their remainders are the raw bits. -/
theorem exists_rawInteger {t : WireType} {v : Scalar} {n : Int} (hv : v.number? = some n) :
    ∃ n' : UInt64, (t.InRange n → (n'.toNat : Int) = n % (2 ^ 64 : Nat)) ∧
      (if t.isSigned then rawSigned t v else rawUnsigned t v) =
        if t.InRange n then .ok n' else .error (.own (.outOfRange v t)) := by
  cases ht : t.isSigned with
  | true =>
      refine ⟨(Int64.ofInt n).toUInt64, ?_, rawSigned_eq ht hv⟩
      intro _
      rw [toNat_toUInt64, Int64.toInt_ofInt]
      exact Int.bmod_emod
  | false =>
      refine ⟨UInt64.ofNat n.toNat, ?_, rawUnsigned_eq ht hv⟩
      intro hin
      have hlt := (toUInt64?_eq hv).1
      rw [WireType.InRange, if_neg (ne_true_of_eq_false ht)] at hin
      have hsmall : n.toNat < 2 ^ 64 := by omega
      rw [UInt64.toNat_ofNat_of_lt' hsmall, Int.emod_eq_of_lt hin.1 (by omega)]
      omega

/-- A character is written as its byte. -/
theorem littleEndian_one (x : UInt8) : Bytes.littleEndian 1 x.toUInt64.toNat = [x] := by
  rw [Bytes.littleEndian, UInt8.toNat_toUInt64, UInt8.ofNat_toNat]
  rfl

/-- **The raw bits of a value** are found without a fault, and it is written as their low bytes. -/
theorem exists_raw (t : WireType) (v : Scalar) : ∃ x : Except EncodeFault UInt64,
    raw t v = ofExcept x ∧
      t.write v = (fun n : UInt64 => Bytes.littleEndian t.size n.toNat) <$> x := by
  by_cases ht : t.isInteger = true
  · rw [raw_of_isInteger ht, WireType.write_of_isInteger ht, WireType.writeInteger]
    cases hv : v.number? with
    | none => exact ⟨.error (.typeMismatch .integer v.kind), rfl, rfl⟩
    | some n =>
        dsimp only
        obtain ⟨n', hn', hraw⟩ := exists_rawInteger hv
        rw [hraw]
        by_cases hin : t.InRange n
        · rw [if_pos hin, if_pos ((WireType.integerOfRaw_rawOfInteger_iff t n).2 hin)]
          exact ⟨.ok n', rfl, congrArg Except.ok (littleEndian_toNat (hn' hin) t).symm⟩
        · rw [if_neg hin, if_neg ((WireType.integerOfRaw_rawOfInteger_iff t n).not.2 hin)]
          exact ⟨.error (.outOfRange v t), rfl, rfl⟩
  · cases t with
    | float =>
        rw [raw, WireType.write, WireType.writeFloat]
        cases v.toBinary64? with
        | none => exact ⟨.error (.typeMismatch .number v.kind), rfl, rfl⟩
        | some x =>
            dsimp only
            split
            · exact ⟨.error (.outOfRange v .float), rfl, rfl⟩
            · exact ⟨.ok x.narrow.bits.toUInt64, rfl, rfl⟩
    | double =>
        rw [raw, WireType.write, WireType.writeDouble]
        cases v.toBinary64? with
        | none => exact ⟨.error (.typeMismatch .number v.kind), rfl, rfl⟩
        | some x => exact ⟨.ok x.bits, rfl, rfl⟩
    | char =>
        cases v with
        | text s =>
            exact ⟨.ok ((Text.bytes s).headD 0).toUInt64, rfl,
              congrArg Except.ok (littleEndian_one _).symm⟩
        | bytes b =>
            exact ⟨.ok (b.headD 0).toUInt64, rfl, congrArg Except.ok (littleEndian_one _).symm⟩
        | float x => exact ⟨.error (.typeMismatch .character .float), rfl, rfl⟩
        | uint n | int n =>
            rw [raw.eq_def, WireType.write, WireType.writeChar]
            dsimp only
            generalize Scalar.toUInt64? _ = found
            cases found with
            | none => exact ⟨.error (.outOfRange _ .char), rfl, rfl⟩
            | some code =>
                by_cases hcode : code ≤ 0xff
                · simp only [if_pos hcode]
                  exact ⟨.ok code, rfl, rfl⟩
                · simp only [if_neg hcode]
                  exact ⟨.error (.outOfRange _ .char), rfl, rfl⟩
    | _ => exact absurd rfl ht

/-- **One value is written** over the bytes of its element. -/
theorem writeScalar_eq (t : WireType) (v : Scalar) {out : Bytes} (h : out.length = t.size) :
    writeScalar t v out = ofExcept (t.write v) := by
  obtain ⟨x, hraw, hwrite⟩ := exists_raw t v
  rw [writeScalar, hraw, hwrite]
  cases x with
  | error e => rfl
  | ok n =>
      have hlength : t.size ≤ (Bytes.littleEndian 8 n.toNat).length := by
        rw [Bytes.length_littleEndian]
        exact t.size_le
      have hcopy : out.length = (Bytes.littleEndian t.size n.toNat).length := by
        rw [h, Bytes.length_littleEndian]
      show (range _ 0 t.size >>= fun b => copy out b) = _
      rw [range_front hlength, ok_bind, Bytes.take_littleEndian t.size_le, copy_eq hcopy]
      rfl

end Checked

end Mavlink
