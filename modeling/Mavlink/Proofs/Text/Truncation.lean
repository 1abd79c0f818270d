import Mathlib.Tactic.IntervalCases
import Mavlink.Proofs.Text.Utf8

/-!
# Texts that are cut off

A text field cuts off a text after a number of bytes, wherever the cut falls among the bytes of its
characters. Reading gives the characters before the cut. If the cut falls inside a character, the
bytes of it that are left are the beginning of a character without its end, and become one
replacement character: then what is read is not the beginning of the text, unless the character
was a replacement character itself.

## Main results

* `decode_take_utf8EncodeChar`: the beginning of a character is read as one replacement character.
* `ofBytes_take_iff`: what is read from the bytes of a text up to a cut.
* `Cut.isPrefix_iff`: when this is the beginning of the text.
-/

namespace Mavlink.Text

/-! ### The beginning of a character -/

/-- A first byte without those that follow it. -/
theorem decode_singleton {a : UInt8} (ha : 0x80 ≤ a.toNat) : decode [a] = [replacement] := by
  have hone : ¬ a < 0x80 := fun h => by
    have h : a.toNat < 0x80 := UInt8.lt_iff_toNat_lt.mp h
    omega
  rw [decode.eq_def]
  simp only []
  rw [if_neg hone]
  split_ifs <;> rfl

/-- Two bytes of a character of three bytes. -/
theorem decode_two_of_three {a b : UInt8} (ha : 0xe0 ≤ a.toNat ∧ a.toNat ≤ 0xef)
    (hb : 0x80 ≤ b.toNat ∧ b.toNat ≤ 0xbf) (hshortest : a.toNat = 0xe0 → 0xa0 ≤ b.toNat)
    (hsurrogate : a.toNat = 0xed → b.toNat ≤ 0x9f) : decode [a, b] = [replacement] := by
  obtain ⟨hone, htwo, hthree⟩ := first_of_three ha
  rw [decode.eq_def]
  simp only []
  rw [if_neg hone, if_neg htwo, if_pos hthree, if_pos (second_of_three hb hshortest hsurrogate)]

/-- Two or three bytes of a character of four bytes. -/
theorem decode_part_of_four {a b : UInt8} (ha : 0xf0 ≤ a.toNat ∧ a.toNat ≤ 0xf4)
    (hb : 0x80 ≤ b.toNat ∧ b.toNat ≤ 0xbf) (hshortest : a.toNat = 0xf0 → 0x90 ≤ b.toNat)
    (hlast : a.toNat = 0xf4 → b.toNat ≤ 0x8f) :
    decode [a, b] = [replacement] ∧
      ∀ c : UInt8, 0x80 ≤ c.toNat ∧ c.toNat ≤ 0xbf → decode [a, b, c] = [replacement] := by
  obtain ⟨hone, htwo, hthree, hfour⟩ := first_of_four ha
  have hsecond := second_of_four hb hshortest hlast
  constructor
  · rw [decode.eq_def]
    simp only []
    rw [if_neg hone, if_neg htwo, if_neg hthree, if_pos hfour, if_pos hsecond]
  · intro c hc
    rw [decode.eq_def]
    simp only []
    rw [if_neg hone, if_neg htwo, if_neg hthree, if_pos hfour, if_pos hsecond,
      if_pos (isTail_iff.mpr hc)]

/-- **The beginning of a character** is read as one replacement character. -/
theorem decode_take_utf8EncodeChar {c : Char} {k : Nat} (hpos : 0 < k) (hlt : k < c.utf8Size) :
    decode ((String.utf8EncodeChar c).take k) = [replacement] := by
  rw [← String.length_utf8EncodeChar] at hlt
  have hencodes := encodes_utf8EncodeChar c
  generalize String.utf8EncodeChar c = b at hencodes hlt ⊢
  cases hencodes with
  | one ha hcode => exact absurd hlt (Nat.not_lt.2 hpos)
  | two ha hb hcode =>
      have hlt : k < 2 := hlt
      interval_cases k
      exact decode_singleton (by omega)
  | three ha hb hc hshortest hsurrogate hcode =>
      have hlt : k < 3 := hlt
      interval_cases k
      · exact decode_singleton (by omega)
      · exact decode_two_of_three ha hb hshortest hsurrogate
  | four ha hb hc hd hshortest hlast hcode =>
      have hlt : k < 4 := hlt
      obtain ⟨htwo, hthree⟩ := decode_part_of_four ha hb hshortest hlast
      interval_cases k
      · exact decode_singleton (by omega)
      · exact htwo
      · exact hthree _ hc

/-! ### The beginning of a text -/

/-- A cut after `n` bytes of a text **severs** a character if it falls inside of it. -/
def Severs (n : Nat) (s : String) (c : Char) : Prop :=
  ∃ front back, s = front ++ String.singleton c ++ back ∧ front.utf8ByteSize < n ∧
    n < front.utf8ByteSize + c.utf8Size

/-- What is read of a text after it was **cut** after `n` bytes. -/
inductive Cut (n : Nat) (s : String) : String → Prop
  | whole (hfits : s.utf8ByteSize ≤ n) : Cut n s s
  | between {front back} (hs : s = front ++ back) (hn : front.utf8ByteSize = n) : Cut n s front
  | inside {front c back} (hs : s = front ++ String.singleton c ++ back)
      (hlow : front.utf8ByteSize < n) (hhigh : n < front.utf8ByteSize + c.utf8Size) :
      Cut n s (front ++ String.singleton replacement)

variable {n : Nat} {s kept : String}

/-- The bytes of two texts in a row. -/
theorem bytes_append (s t : String) : bytes (s ++ t) = bytes s ++ bytes t := by
  rw [bytes, String.toList_append, List.flatMap_append]
  rfl

/-- The bytes of one character. -/
theorem bytes_singleton (c : Char) : bytes (String.singleton c) = String.utf8EncodeChar c := by
  rw [bytes, String.toList_singleton, List.flatMap_singleton]

/-- Every byte of a text belongs to one of its characters. -/
theorem exists_char_at (h : n < s.utf8ByteSize) :
    ∃ front c back, s = front ++ String.singleton c ++ back ∧ front.utf8ByteSize ≤ n ∧
      n < front.utf8ByteSize + c.utf8Size := by
  obtain ⟨cs, rfl⟩ : ∃ cs, s = String.ofList cs := ⟨s.toList, String.ofList_toList.symm⟩
  induction cs generalizing n with
  | nil => exact absurd h (Nat.not_lt_zero n)
  | cons c cs ih =>
      have hcons : String.ofList (c :: cs) = String.singleton c ++ String.ofList cs := by
        rw [← List.singleton_append, String.ofList_append]
        rfl
      rw [hcons, String.utf8ByteSize_append, String.utf8ByteSize_singleton] at h
      rw [hcons]
      by_cases hn : n < c.utf8Size
      · exact ⟨"", c, String.ofList cs, by rw [String.empty_append], Nat.zero_le n, by simpa⟩
      · obtain ⟨front, d, back, hcs, hlow, hhigh⟩ := ih (n := n - c.utf8Size) (by omega)
        refine ⟨String.singleton c ++ front, d, back, ?_, ?_, ?_⟩
        · rw [hcs, String.append_assoc, String.append_assoc, String.append_assoc]
        · rw [String.utf8ByteSize_append, String.utf8ByteSize_singleton]
          omega
        · rw [String.utf8ByteSize_append, String.utf8ByteSize_singleton]
          omega

/-- A text can be cut anywhere. -/
theorem exists_cut (n : Nat) (s : String) : ∃ kept, Cut n s kept := by
  by_cases hfits : s.utf8ByteSize ≤ n
  · exact ⟨s, .whole hfits⟩
  · obtain ⟨front, c, back, hs, hlow, hhigh⟩ := exists_char_at (Nat.not_le.1 hfits)
    rcases Nat.eq_or_lt_of_le hlow with hn | hlow
    · exact ⟨front, .between (hs.trans String.append_assoc) hn⟩
    · exact ⟨_, .inside hs hlow hhigh⟩

/-- What is read is what is cut. -/
theorem Cut.ofBytes_take (h : Cut n s kept) : ofBytes ((bytes s).take n) = kept := by
  cases h with
  | whole hfits => rw [List.take_of_length_le (length_bytes s ▸ hfits), ofBytes_bytes]
  | between hs hn =>
      rw [hs, bytes_append, ← hn, ← length_bytes, List.take_left, ofBytes_bytes]
  | @inside front c back hs hlow hhigh =>
      have hrest : n - (bytes front).length < c.utf8Size := by
        rw [length_bytes]
        omega
      have hpos : 0 < n - (bytes front).length := by
        rw [length_bytes]
        omega
      have htake : (bytes s).take n = bytes front ++
          (String.utf8EncodeChar c).take (n - (bytes front).length) := by
        rw [hs, bytes_append, bytes_append, bytes_singleton, List.append_assoc, List.take_append,
          List.take_of_length_le (length_bytes front ▸ hlow.le),
          List.take_append_of_le_length (String.length_utf8EncodeChar c ▸ hrest.le)]
      rw [htake, ofBytes, decode_bytes_append, decode_take_utf8EncodeChar hpos hrest,
        String.ofList_append, String.ofList_toList]
      rfl

/-- **What is read from the bytes of a text up to a cut.** -/
theorem ofBytes_take_iff : ofBytes ((bytes s).take n) = kept ↔ Cut n s kept := by
  refine ⟨?_, Cut.ofBytes_take⟩
  rintro rfl
  obtain ⟨kept, hcut⟩ := exists_cut n s
  rwa [hcut.ofBytes_take]

/-- There is one outcome of a cut. -/
theorem Cut.unique {kept' : String} (h : Cut n s kept) (h' : Cut n s kept') : kept = kept' :=
  h.ofBytes_take.symm.trans h'.ofBytes_take

/-- **What is read is the beginning of the text**, unless the cut severs a character other than the
replacement character. -/
theorem Cut.isPrefix_iff (h : Cut n s kept) :
    kept.toList <+: s.toList ↔ ∀ c, Severs n s c → c = replacement := by
  constructor
  · rintro hprefix c ⟨front, back, rfl, hlow, hhigh⟩
    obtain rfl := h.unique (.inside rfl hlow hhigh)
    rw [String.append_assoc, String.toList_append, String.toList_append,
      List.prefix_append_right_inj, String.toList_append, String.toList_singleton,
      String.toList_singleton, List.singleton_append, List.cons_prefix_cons] at hprefix
    exact hprefix.1.symm
  · intro hsevers
    cases h with
    | whole hfits => exact List.prefix_refl _
    | between hs hn => exact ⟨_, by rw [hs, String.toList_append]⟩
    | @inside front c back hs hlow hhigh =>
        obtain rfl := hsevers c ⟨front, back, hs, hlow, hhigh⟩
        exact ⟨_, by rw [hs, String.toList_append (s := front ++ _)]⟩

/-- **What is read from the field of a text** without the zero character. -/
theorem ofField_fit_iff (hzero : '\x00' ∉ s.toList) :
    ofField (Bytes.fit n (bytes s)) = kept ↔ Cut n s kept := by
  rw [ofField, untilZero_fit (zero_notMem_bytes hzero), ofBytes_take_iff]

end Mavlink.Text
