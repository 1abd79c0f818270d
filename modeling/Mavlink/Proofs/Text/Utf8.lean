import Mavlink.Text.Utf8

/-!
# Texts survive their bytes

Decoding reads one character at a time, so it is enough that the bytes of a single character, with
anything after them, decode to that character. The four lengths of an encoding are four branches
of the decoder, each of which checks that the encoding is the shortest one and no surrogate.

A text field ends at its first zero byte. Only the zero character is encoded with a zero byte, so
a text without it comes back from its field.

## Main results

* `encodes_utf8EncodeChar`: the bytes of a character have one of four forms.
* `decode_utf8EncodeChar`: the bytes of a character decode to it, whatever follows.
* `ofBytes_bytes`: every text is what its bytes read as.
* `ofField_fit_bytes`: a text without the zero character comes back from a field that is long
  enough for it.
* `fit_bytes_ofField`: a field that is a text comes back from the text that it reads as.
-/

namespace Mavlink.Text

/-! ### The branches of the decoder -/

/-- A byte is between two bounds. -/
theorem between_iff {low b high : UInt8} :
    (decide (low ≤ b) && decide (b ≤ high)) = true ↔
      low.toNat ≤ b.toNat ∧ b.toNat ≤ high.toNat := by
  rw [Bool.and_eq_true, decide_eq_true_iff, decide_eq_true_iff, UInt8.le_iff_toNat_le,
    UInt8.le_iff_toNat_le]

/-- The bytes that can stand behind the first byte of a character. -/
theorem isTail_iff {b : UInt8} : isTail b = true ↔ 0x80 ≤ b.toNat ∧ b.toNat ≤ 0xbf :=
  between_iff

/-- The first byte of a character of two bytes. -/
theorem first_of_two {a : UInt8} (ha : 0xc2 ≤ a.toNat ∧ a.toNat ≤ 0xdf) :
    ¬ a < 0x80 ∧ (decide (0xc2 ≤ a) && decide (a ≤ 0xdf)) = true := by
  refine ⟨fun h => ?_, between_iff.mpr ha⟩
  have h : a.toNat < 0x80 := UInt8.lt_iff_toNat_lt.mp h
  omega

/-- The first byte of a character of three bytes. -/
theorem first_of_three {a : UInt8} (ha : 0xe0 ≤ a.toNat ∧ a.toNat ≤ 0xef) :
    ¬ a < 0x80 ∧ ¬ (decide (0xc2 ≤ a) && decide (a ≤ 0xdf)) = true ∧
      (decide (0xe0 ≤ a) && decide (a ≤ 0xef)) = true := by
  refine ⟨fun h => ?_, fun h => ?_, between_iff.mpr ha⟩
  · have h : a.toNat < 0x80 := UInt8.lt_iff_toNat_lt.mp h
    omega
  · have h : a.toNat ≤ 0xdf := (between_iff.mp h).2
    omega

/-- The first byte of a character of four bytes. -/
theorem first_of_four {a : UInt8} (ha : 0xf0 ≤ a.toNat ∧ a.toNat ≤ 0xf4) :
    ¬ a < 0x80 ∧ ¬ (decide (0xc2 ≤ a) && decide (a ≤ 0xdf)) = true ∧
      ¬ (decide (0xe0 ≤ a) && decide (a ≤ 0xef)) = true ∧
      (decide (0xf0 ≤ a) && decide (a ≤ 0xf4)) = true := by
  refine ⟨fun h => ?_, fun h => ?_, fun h => ?_, between_iff.mpr ha⟩
  · have h : a.toNat < 0x80 := UInt8.lt_iff_toNat_lt.mp h
    omega
  · have h : a.toNat ≤ 0xdf := (between_iff.mp h).2
    omega
  · have h : a.toNat ≤ 0xef := (between_iff.mp h).2
    omega

/-- The second byte of a character of three bytes, if the encoding is the shortest one and no
surrogate. -/
theorem second_of_three {a b : UInt8} (hb : 0x80 ≤ b.toNat ∧ b.toNat ≤ 0xbf)
    (hshortest : a.toNat = 0xe0 → 0xa0 ≤ b.toNat) (hsurrogate : a.toNat = 0xed → b.toNat ≤ 0x9f) :
    isSecondOfThree a b = true := by
  refine between_iff.mpr ⟨?_, ?_⟩
  · split
    · next h => exact hshortest (congrArg UInt8.toNat h)
    · exact hb.1
  · split
    · next h => exact hsurrogate (congrArg UInt8.toNat h)
    · exact hb.2

/-- The second byte of a character of four bytes, if the encoding is the shortest one and within
the code points. -/
theorem second_of_four {a b : UInt8} (hb : 0x80 ≤ b.toNat ∧ b.toNat ≤ 0xbf)
    (hshortest : a.toNat = 0xf0 → 0x90 ≤ b.toNat) (hlast : a.toNat = 0xf4 → b.toNat ≤ 0x8f) :
    isSecondOfFour a b = true := by
  refine between_iff.mpr ⟨?_, ?_⟩
  · split
    · next h => exact hshortest (congrArg UInt8.toNat h)
    · exact hb.1
  · split
    · next h => exact hlast (congrArg UInt8.toNat h)
    · exact hb.2

/-- **A character of one byte.** -/
theorem decode_one {a : UInt8} (ha : a.toNat < 0x80) (rest : Bytes) :
    decode (a :: rest) = Char.ofNat a.toNat :: decode rest := by
  have hone : a < 0x80 := UInt8.lt_iff_toNat_lt.mpr ha
  rw [decode.eq_def]
  simp only [if_pos hone]

/-- **A character of two bytes.** -/
theorem decode_two {a b : UInt8} (ha : 0xc2 ≤ a.toNat ∧ a.toNat ≤ 0xdf)
    (hb : 0x80 ≤ b.toNat ∧ b.toNat ≤ 0xbf) (rest : Bytes) :
    decode (a :: b :: rest) = Char.ofNat (a.toNat % 32 * 64 + tailBits b) :: decode rest := by
  obtain ⟨hone, htwo⟩ := first_of_two ha
  rw [decode.eq_def]
  simp only []
  rw [if_neg hone, if_pos htwo, if_pos (isTail_iff.mpr hb)]

/-- **A character of three bytes**, if the encoding is the shortest one and no surrogate. -/
theorem decode_three {a b c : UInt8} (ha : 0xe0 ≤ a.toNat ∧ a.toNat ≤ 0xef)
    (hb : 0x80 ≤ b.toNat ∧ b.toNat ≤ 0xbf) (hc : 0x80 ≤ c.toNat ∧ c.toNat ≤ 0xbf)
    (hshortest : a.toNat = 0xe0 → 0xa0 ≤ b.toNat) (hsurrogate : a.toNat = 0xed → b.toNat ≤ 0x9f)
    (rest : Bytes) :
    decode (a :: b :: c :: rest) =
      Char.ofNat ((a.toNat % 16 * 64 + tailBits b) * 64 + tailBits c) :: decode rest := by
  obtain ⟨hone, htwo, hthree⟩ := first_of_three ha
  rw [decode.eq_def]
  simp only []
  rw [if_neg hone, if_neg htwo, if_pos hthree, if_pos (second_of_three hb hshortest hsurrogate),
    if_pos (isTail_iff.mpr hc)]

/-- **A character of four bytes**, if the encoding is the shortest one and within the code
points. -/
theorem decode_four {a b c d : UInt8} (ha : 0xf0 ≤ a.toNat ∧ a.toNat ≤ 0xf4)
    (hb : 0x80 ≤ b.toNat ∧ b.toNat ≤ 0xbf) (hc : 0x80 ≤ c.toNat ∧ c.toNat ≤ 0xbf)
    (hd : 0x80 ≤ d.toNat ∧ d.toNat ≤ 0xbf)
    (hshortest : a.toNat = 0xf0 → 0x90 ≤ b.toNat) (hlast : a.toNat = 0xf4 → b.toNat ≤ 0x8f)
    (rest : Bytes) :
    decode (a :: b :: c :: d :: rest) =
      Char.ofNat (((a.toNat % 8 * 64 + tailBits b) * 64 + tailBits c) * 64 + tailBits d) ::
        decode rest := by
  obtain ⟨hone, htwo, hthree, hfour⟩ := first_of_four ha
  rw [decode.eq_def]
  simp only []
  rw [if_neg hone, if_neg htwo, if_neg hthree, if_pos hfour,
    if_pos (second_of_four hb hshortest hlast), if_pos (isTail_iff.mpr hc),
    if_pos (isTail_iff.mpr hd)]

/-! ### The bytes of a character -/

/-- A number that a byte has room for is kept. -/
theorem toNat_ofNat_of_lt {n : Nat} (h : n < 256) : (UInt8.ofNat n).toNat = n := by
  rw [UInt8.toNat_ofNat', Nat.mod_eq_of_lt h]

/-- The code points are those up to `0x10ffff`, without the surrogates. -/
theorem codePoint_bounds (c : Char) :
    c.val.toNat < 0xd800 ∨ 0xdfff < c.val.toNat ∧ c.val.toNat < 0x110000 :=
  c.valid

/-- Bytes **encode** a character if they have one of the four forms that the decoder reads, and
carry its code point. -/
inductive Encodes (char : Char) : Bytes → Prop
  | one {a : UInt8} (ha : a.toNat < 0x80) (hcode : a.toNat = char.val.toNat) : Encodes char [a]
  | two {a b : UInt8} (ha : 0xc2 ≤ a.toNat ∧ a.toNat ≤ 0xdf) (hb : 0x80 ≤ b.toNat ∧ b.toNat ≤ 0xbf)
      (hcode : a.toNat % 32 * 64 + tailBits b = char.val.toNat) : Encodes char [a, b]
  | three {a b c : UInt8} (ha : 0xe0 ≤ a.toNat ∧ a.toNat ≤ 0xef)
      (hb : 0x80 ≤ b.toNat ∧ b.toNat ≤ 0xbf) (hc : 0x80 ≤ c.toNat ∧ c.toNat ≤ 0xbf)
      (hshortest : a.toNat = 0xe0 → 0xa0 ≤ b.toNat)
      (hsurrogate : a.toNat = 0xed → b.toNat ≤ 0x9f)
      (hcode : (a.toNat % 16 * 64 + tailBits b) * 64 + tailBits c = char.val.toNat) :
      Encodes char [a, b, c]
  | four {a b c d : UInt8} (ha : 0xf0 ≤ a.toNat ∧ a.toNat ≤ 0xf4)
      (hb : 0x80 ≤ b.toNat ∧ b.toNat ≤ 0xbf) (hc : 0x80 ≤ c.toNat ∧ c.toNat ≤ 0xbf)
      (hd : 0x80 ≤ d.toNat ∧ d.toNat ≤ 0xbf) (hshortest : a.toNat = 0xf0 → 0x90 ≤ b.toNat)
      (hlast : a.toNat = 0xf4 → b.toNat ≤ 0x8f)
      (hcode : ((a.toNat % 8 * 64 + tailBits b) * 64 + tailBits c) * 64 + tailBits d =
        char.val.toNat) : Encodes char [a, b, c, d]

/-- **The bytes of a character encode it.** -/
theorem encodes_utf8EncodeChar (c : Char) : Encodes c (String.utf8EncodeChar c) := by
  have hbounds := codePoint_bounds c
  obtain ⟨v, hv⟩ : ∃ v, c.val.toNat = v := ⟨_, rfl⟩
  rw [hv] at hbounds
  simp only [String.utf8EncodeChar]
  rw [hv]
  split
  · have ha := toNat_ofNat_of_lt (n := v) (by omega)
    exact .one (by omega) (by omega)
  · split
    · have ha := toNat_ofNat_of_lt (n := v / 64 % 0x20 + 0xc0) (by omega)
      have hb := toNat_ofNat_of_lt (n := v % 0x40 + 0x80) (by omega)
      exact .two (by omega) (by omega) (by rw [tailBits]; omega)
    · split
      · have ha := toNat_ofNat_of_lt (n := v / 4096 % 0x10 + 0xe0) (by omega)
        have hb := toNat_ofNat_of_lt (n := v / 64 % 0x40 + 0x80) (by omega)
        have hc := toNat_ofNat_of_lt (n := v % 0x40 + 0x80) (by omega)
        exact .three (by omega) (by omega) (by omega) (by omega) (by omega)
          (by rw [tailBits, tailBits]; omega)
      · have ha := toNat_ofNat_of_lt (n := v / 262144 % 0x08 + 0xf0) (by omega)
        have hb := toNat_ofNat_of_lt (n := v / 4096 % 0x40 + 0x80) (by omega)
        have hc := toNat_ofNat_of_lt (n := v / 64 % 0x40 + 0x80) (by omega)
        have hd := toNat_ofNat_of_lt (n := v % 0x40 + 0x80) (by omega)
        exact .four (by omega) (by omega) (by omega) (by omega) (by omega) (by omega)
          (by rw [tailBits, tailBits, tailBits]; omega)

/-- **The bytes of a character decode to it**, whatever follows. -/
theorem decode_utf8EncodeChar (c : Char) (rest : Bytes) :
    decode (String.utf8EncodeChar c ++ rest) = c :: decode rest := by
  have hself : Char.ofNat c.val.toNat = c := Char.ofNat_toNat c
  have hencodes := encodes_utf8EncodeChar c
  generalize String.utf8EncodeChar c = b at hencodes ⊢
  cases hencodes with
  | one ha hcode => rw [List.singleton_append, decode_one ha, hcode, hself]
  | two ha hb hcode =>
      rw [List.cons_append, List.singleton_append, decode_two ha hb, hcode, hself]
  | three ha hb hc hshortest hsurrogate hcode =>
      rw [List.cons_append, List.cons_append, List.singleton_append,
        decode_three ha hb hc hshortest hsurrogate, hcode, hself]
  | four ha hb hc hd hshortest hlast hcode =>
      rw [List.cons_append, List.cons_append, List.cons_append, List.singleton_append,
        decode_four ha hb hc hd hshortest hlast, hcode, hself]

/-! ### Whole texts -/

/-- The bytes of a text decode to it, whatever follows. -/
theorem decode_bytes_append (s : String) (rest : Bytes) :
    decode (bytes s ++ rest) = s.toList ++ decode rest := by
  rw [bytes]
  induction s.toList with
  | nil => rfl
  | cons c cs ih =>
      rw [List.flatMap_cons, List.append_assoc, decode_utf8EncodeChar, ih, List.cons_append]

/-- **Every text is what its bytes read as.** -/
theorem ofBytes_bytes (s : String) : ofBytes (bytes s) = s := by
  have h := decode_bytes_append s []
  rw [List.append_nil, decode.eq_def [], List.append_nil] at h
  rw [ofBytes, h, String.ofList_toList]

/-- The bytes of a text are as many as the text takes in UTF-8. -/
theorem length_bytes (s : String) : (bytes s).length = s.utf8ByteSize := by
  have h : s.toByteArray = (bytes s).toByteArray := String.utf8Encode_toList.symm
  rw [String.utf8ByteSize, h, List.size_toByteArray]

/-! ### Texts in fields -/

/-- A text is **plain** up to a length if it takes at most that many bytes and does not contain
the zero character. -/
structure Plain (length : Nat) (s : String) : Prop where
  fits : s.utf8ByteSize ≤ length
  nonzero : '\x00' ∉ s.toList

/-- Zero is not a positive byte. -/
theorem zero_ne_of_pos {a : UInt8} (h : 0 < a.toNat) : (0 : UInt8) ≠ a := by
  rintro rfl
  exact absurd h (Nat.lt_irrefl 0)

/-- Only the zero character is encoded with a zero byte. -/
theorem zero_notMem_utf8EncodeChar {c : Char} (hc : c ≠ '\x00') :
    0 ∉ String.utf8EncodeChar c := by
  have hpos : 0 < c.val.toNat := by
    refine Nat.pos_of_ne_zero fun hzero => hc (Char.ext (UInt32.toNat_inj.mp hzero))
  have hencodes := encodes_utf8EncodeChar c
  generalize String.utf8EncodeChar c = b at hencodes ⊢
  cases hencodes with
  | one ha hcode =>
      rw [List.mem_singleton]
      exact zero_ne_of_pos (hcode ▸ hpos)
  | two ha hb hcode =>
      simp only [List.mem_cons, List.not_mem_nil, or_false, not_or]
      exact ⟨zero_ne_of_pos (by omega), zero_ne_of_pos (by omega)⟩
  | three ha hb hc hshortest hsurrogate hcode =>
      simp only [List.mem_cons, List.not_mem_nil, or_false, not_or]
      exact ⟨zero_ne_of_pos (by omega), zero_ne_of_pos (by omega), zero_ne_of_pos (by omega)⟩
  | four ha hb hc hd hshortest hlast hcode =>
      simp only [List.mem_cons, List.not_mem_nil, or_false, not_or]
      exact ⟨zero_ne_of_pos (by omega), zero_ne_of_pos (by omega), zero_ne_of_pos (by omega),
        zero_ne_of_pos (by omega)⟩

/-- There is no zero byte in a text without the zero character. -/
theorem zero_notMem_bytes {s : String} (h : '\x00' ∉ s.toList) : 0 ∉ bytes s := by
  intro hmem
  obtain ⟨c, hc, hzero⟩ := List.mem_flatMap.1 hmem
  exact zero_notMem_utf8EncodeChar (fun heq => h (heq ▸ hc)) hzero

/-- Zero bytes after a string without zero bytes are cut off again. -/
theorem untilZero_fit {b : Bytes} (hzero : 0 ∉ b) (n : Nat) :
    (Bytes.fit n b).untilZero = b.take n := by
  have hnonzero : ∀ x ∈ b.take n, decide (x ≠ 0) = true := by
    intro x hx
    exact decide_eq_true fun heq => hzero (heq ▸ List.mem_of_mem_take hx)
  rw [Bytes.fit, Bytes.zeros, Bytes.untilZero, List.takeWhile_append_of_pos hnonzero,
    List.takeWhile_replicate, if_neg (by decide), List.append_nil]

/-- **A plain text comes back from its field.** -/
theorem ofField_fit_bytes {s : String} {n : Nat} (h : Plain n s) :
    ofField (Bytes.fit n (bytes s)) = s := by
  have hlen : (bytes s).length ≤ n := length_bytes s ▸ h.fits
  rw [ofField, untilZero_fit (zero_notMem_bytes h.nonzero), List.take_of_length_le hlen,
    ofBytes_bytes]

/-! ### Bytes that are a text -/

/-- A byte string **is UTF-8** if it is the bytes of a text. -/
def IsUtf8 (b : Bytes) : Prop :=
  ∃ s : String, bytes s = b

/-- UTF-8 bytes are the bytes of the text that they read as. -/
theorem bytes_ofBytes {b : Bytes} (h : IsUtf8 b) : bytes (ofBytes b) = b := by
  obtain ⟨s, rfl⟩ := h
  rw [ofBytes_bytes]

/-- A byte of the ASCII range is a text of one character. -/
theorem isUtf8_singleton {x : UInt8} (h : x < 0x80) : IsUtf8 [x] := by
  have hlt : x.toNat < 0x80 := UInt8.lt_iff_toNat_lt.mp h
  have hvalid : x.toNat.isValidChar := .inl (by omega)
  have hval : (Char.ofNat x.toNat).val.toNat = x.toNat := by
    rw [Char.ofNat, dif_pos hvalid]
    rfl
  refine ⟨String.singleton (Char.ofNat x.toNat), ?_⟩
  rw [bytes, String.toList_singleton, List.flatMap_singleton]
  simp only [String.utf8EncodeChar]
  rw [hval, if_pos (by omega), UInt8.ofNat_toNat]

/-- The bytes of a field **are a text** if they are UTF-8 up to the first zero byte, and zero from
there on. -/
structure IsField (b : Bytes) : Prop where
  isUtf8 : IsUtf8 b.untilZero
  padding : ∀ x ∈ b.drop b.untilZero.length, x = 0

/-- **A field that is a text** is the bytes of the text that it reads as, filled up with zeros. -/
theorem fit_bytes_ofField {b : Bytes} (h : IsField b) :
    Bytes.fit b.length (bytes (ofField b)) = b := by
  have hprefix : b.untilZero <+: b := List.takeWhile_prefix _
  have hrest : Bytes.zeros (b.length - b.untilZero.length) = b.drop b.untilZero.length :=
    (List.eq_replicate_iff.2 ⟨List.length_drop, h.padding⟩).symm
  rw [ofField, bytes_ofBytes h.isUtf8, Bytes.fit, List.take_of_length_le hprefix.length_le, hrest]
  exact List.prefix_iff_eq_append.1 hprefix

/-- One byte is a text if it is an ASCII character. -/
theorem isField_singleton {x : UInt8} (h : x < 0x80) : IsField [x] := by
  by_cases hx : x = 0
  · subst hx
    exact ⟨⟨"", rfl⟩, fun y hy => List.mem_singleton.1 hy⟩
  · have hself : Bytes.untilZero [x] = [x] :=
      List.takeWhile_cons_of_pos (p := fun y => decide (y ≠ 0)) (decide_eq_true hx)
    refine ⟨?_, ?_⟩
    · rw [hself]
      exact isUtf8_singleton h
    · rw [hself]
      exact fun y hy => absurd hy List.not_mem_nil

/-- The field of a plain text is a text. -/
theorem isField_fit_bytes {s : String} {n : Nat} (h : Plain n s) :
    IsField (Bytes.fit n (bytes s)) := by
  have hlen : (bytes s).length ≤ n := length_bytes s ▸ h.fits
  have huntil := untilZero_fit (zero_notMem_bytes h.nonzero) n
  rw [List.take_of_length_le hlen] at huntil
  refine ⟨⟨s, huntil.symm⟩, ?_⟩
  rw [huntil, Bytes.fit, List.take_of_length_le hlen, List.drop_left]
  exact fun x hx => List.eq_of_mem_replicate hx

end Mavlink.Text
