import Mathlib.Data.List.TakeWhile
import Mathlib.Data.Nat.Digits.Defs
import Mathlib.Tactic.IntervalCases
import Mathlib.Tactic.Ring
import Mavlink.Text.Lexical

/-!
# Blanks and numbers

What trimming removes and which texts are read as numbers, said without the functions that do it:
a text is its trimmed form between blanks, and a number is written by its decimal digits, possibly
after a plus sign and with leading zeros.

## Main results

* `exists_trim`, `trim_eq`: a text is its trimmed form between blanks, which is the only one.
* `count?_eq_some_iff`: which texts are read as a number.
-/

namespace Mavlink.Text

/-! ### Blanks -/

/-- A text of blanks only. -/
def AreBlank (cs : List Char) : Prop :=
  ∀ c ∈ cs, isBlank c = true

variable {before cs after : List Char}

/-- Blanks in front are cut off. -/
theorem trimStart_append (h : AreBlank before) (cs : List Char) :
    trimStart (before ++ cs) = trimStart cs :=
  List.dropWhile_append_of_pos h

/-- Blanks behind are cut off. -/
theorem trimEnd_append (h : AreBlank after) (cs : List Char) :
    trimEnd (cs ++ after) = trimEnd cs := by
  rw [trimEnd, trimEnd, List.reverse_append, List.dropWhile_append_of_pos]
  exact fun c hc => h c (List.mem_reverse.1 hc)

/-- A text is what trimming its end leaves, with blanks behind it. -/
theorem exists_trimEnd (cs : List Char) : ∃ after, AreBlank after ∧ cs = trimEnd cs ++ after := by
  refine ⟨(cs.reverse.takeWhile isBlank).reverse, ?_, ?_⟩
  · intro c hc
    exact List.mem_takeWhile_imp (List.mem_reverse.1 hc)
  · rw [trimEnd, ← List.reverse_append, List.takeWhile_append_dropWhile, List.reverse_reverse]

/-- **A text is its trimmed form between blanks.** -/
theorem exists_trim (cs : List Char) :
    ∃ before after, AreBlank before ∧ AreBlank after ∧ cs = before ++ trim cs ++ after := by
  obtain ⟨after, hafter, hsplit⟩ := exists_trimEnd (trimStart cs)
  refine ⟨cs.takeWhile isBlank, after, fun c hc => List.mem_takeWhile_imp hc, hafter, ?_⟩
  rw [List.append_assoc, trim, ← hsplit, trimStart, List.takeWhile_append_dropWhile]

/-- A text is **trimmed** if it is not empty and has no blank at its ends. -/
structure IsTrimmed (cs : List Char) : Prop where
  ne_nil : cs ≠ []
  trimStart_eq : trimStart cs = cs
  trimEnd_eq : trimEnd cs = cs

/-- What stands behind a trimmed text does not matter to its start. -/
theorem IsTrimmed.trimStart_append (h : IsTrimmed cs) (after : List Char) :
    trimStart (cs ++ after) = cs ++ after := by
  have hstart := h.trimStart_eq
  cases cs with
  | nil => exact absurd rfl h.ne_nil
  | cons c rest =>
      have hc : ¬ isBlank c = true := by
        intro hc
        rw [trimStart, List.dropWhile_cons_of_pos hc] at hstart
        have hlen := congrArg List.length hstart
        have hle := (List.dropWhile_suffix isBlank (l := rest)).length_le
        rw [List.length_cons] at hlen
        omega
      exact List.dropWhile_cons_of_neg hc

/-- **A trimmed text between blanks is its trimmed form.** -/
theorem trim_eq (h : IsTrimmed cs) (hbefore : AreBlank before) (hafter : AreBlank after) :
    trim (before ++ cs ++ after) = cs := by
  rw [trim, List.append_assoc, Text.trimStart_append hbefore, h.trimStart_append,
    trimEnd_append hafter, h.trimEnd_eq]

/-- A text without blanks is trimmed. -/
theorem isTrimmed_of_forall (hne : cs ≠ []) (h : ∀ c ∈ cs, isBlank c = false) : IsTrimmed cs := by
  have hdrop : ∀ xs : List Char, (∀ c ∈ xs, isBlank c = false) → xs.dropWhile isBlank = xs := by
    intro xs hxs
    cases xs with
    | nil => rfl
    | cons c rest =>
        exact List.dropWhile_cons_of_neg (Bool.eq_false_iff.1 (hxs c List.mem_cons_self))
  refine ⟨hne, hdrop cs h, ?_⟩
  rw [trimEnd, hdrop _ fun c hc => h c (List.mem_reverse.1 hc), List.reverse_reverse]

/-- Where the test passes there is no blank. -/
theorem not_blank_of_all (h : (cs.all fun c => !isBlank c) = true) :
    ∀ c ∈ cs, isBlank c = false := by
  intro c hc
  exact (Bool.not_eq_true' _).mp (List.all_eq_true.1 h c hc)

/-- Trimming the end stops at a character that is not blank. -/
theorem exists_trimEnd_of_not_blank {c : Char} (hc : isBlank c = false) (front rest : List Char) :
    ∃ rest', trimEnd (front ++ c :: rest) = front ++ c :: rest' := by
  obtain ⟨after, hafter, hsplit⟩ := exists_trimEnd (front ++ c :: rest)
  have hnot : c ∉ after := fun hmem => Bool.false_ne_true (hc.symm.trans (hafter c hmem))
  rcases List.append_eq_append_iff.1 hsplit with ⟨mid, hmid, hrest⟩ | ⟨mid, hmid, hrest⟩
  · cases mid with
    | nil =>
        rw [List.nil_append] at hrest
        exact absurd (hrest ▸ List.mem_cons_self) hnot
    | cons x mid =>
        obtain ⟨rfl, -⟩ := List.cons.inj hrest
        exact ⟨mid, hmid⟩
  · exact absurd (hrest ▸ List.mem_append_right mid List.mem_cons_self) hnot

/-! ### Numbers -/

/-- A text **writes** a number if it consists of decimal digits of the number, with or without a
plus sign before them. -/
inductive Writes : List Char → Nat → Prop
  | digits {ds : List Nat} (hne : ds ≠ []) (hds : ∀ d ∈ ds, d < 10) :
      Writes (ds.map Nat.digitChar) (Nat.ofDigits 10 ds.reverse)
  | signed {ds : List Nat} (hne : ds ≠ []) (hds : ∀ d ∈ ds, d < 10) :
      Writes ('+' :: ds.map Nat.digitChar) (Nat.ofDigits 10 ds.reverse)

/-- The characters that are read as digits are those that digits are written as. -/
theorem digit?_eq_some_iff {c : Char} {d : Nat} :
    digit? c = some d ↔ d < 10 ∧ c = Nat.digitChar d := by
  constructor
  · intro h
    rw [digit?] at h
    split at h
    · next hc =>
      obtain rfl := Option.some.inj h
      have hlow : 48 ≤ c.toNat := hc.1
      have hhigh : c.toNat ≤ 57 := hc.2
      have hzero : '0'.toNat = 48 := rfl
      refine ⟨by omega, ?_⟩
      rw [hzero, ← Char.ofNat_toNat c]
      interval_cases c.toNat <;> rfl
    · cases h
  · rintro ⟨hd, rfl⟩
    interval_cases d <;> rfl

/-- Digits extend a number by as many places. -/
theorem digitsFrom?_eq_some_iff {value n : Nat} :
    digitsFrom? value cs = some n ↔ ∃ ds : List Nat, (∀ d ∈ ds, d < 10) ∧
      cs = ds.map Nat.digitChar ∧ n = value * 10 ^ ds.length + Nat.ofDigits 10 ds.reverse := by
  induction cs generalizing value with
  | nil =>
      rw [digitsFrom?, Option.some.injEq]
      constructor
      · rintro rfl
        exact ⟨[], by simp⟩
      · rintro ⟨ds, -, hcs, rfl⟩
        obtain rfl := List.map_eq_nil_iff.1 hcs.symm
        simp
  | cons c rest ih =>
      have hplaces : ∀ (d : Nat) (ds : List Nat),
          (10 * value + d) * 10 ^ ds.length + Nat.ofDigits 10 ds.reverse =
            value * 10 ^ (d :: ds).length + Nat.ofDigits 10 (d :: ds).reverse := by
        intro d ds
        rw [List.reverse_cons, Nat.ofDigits_append, Nat.ofDigits_singleton, List.length_reverse,
          List.length_cons]
        ring
      simp only [digitsFrom?, Option.bind_eq_some_iff, digit?_eq_some_iff, ih]
      constructor
      · rintro ⟨d, ⟨hd, rfl⟩, ds, hds, rfl, rfl⟩
        exact ⟨d :: ds, List.forall_mem_cons.2 ⟨hd, hds⟩, rfl, hplaces d ds⟩
      · rintro ⟨ds, hds, hcs, rfl⟩
        cases ds with
        | nil => cases hcs
        | cons d ds =>
            obtain ⟨rfl, rfl⟩ := List.cons.inj hcs
            obtain ⟨hd, hds⟩ := List.forall_mem_cons.1 hds
            exact ⟨d, ⟨hd, rfl⟩, ds, hds, rfl, (hplaces d ds).symm⟩

/-- What is read as a number is one or more digits, the highest first. -/
theorem digits?_eq_some_iff {n : Nat} :
    digits? cs = some n ↔ ∃ ds : List Nat, ds ≠ [] ∧ (∀ d ∈ ds, d < 10) ∧
      cs = ds.map Nat.digitChar ∧ n = Nat.ofDigits 10 ds.reverse := by
  rw [digits?]
  split
  · next hcs =>
    subst hcs
    constructor
    · intro h
      cases h
    · rintro ⟨ds, hne, -, hcs, -⟩
      exact absurd (List.map_eq_nil_iff.1 hcs.symm) hne
  · next hcs =>
    rw [digitsFrom?_eq_some_iff]
    simp only [Nat.zero_mul, Nat.zero_add]
    constructor
    · rintro ⟨ds, hds, rfl, hn⟩
      exact ⟨ds, fun hnil => hcs (hnil ▸ rfl), hds, rfl, hn⟩
    · rintro ⟨ds, -, hds, hmap, hn⟩
      exact ⟨ds, hds, hmap, hn⟩

/-- No digit is a plus sign. -/
theorem digitChar_ne_plus {d : Nat} (hd : d < 10) : Nat.digitChar d ≠ '+' := by
  interval_cases d <;> decide

/-- A number is written without blanks and brackets. -/
theorem Writes.forall_mem {n : Nat} (h : Writes cs n) :
    ∀ c ∈ cs, isBlank c = false ∧ c ≠ '[' ∧ c ≠ ']' := by
  have hdigits : ∀ ds : List Nat, (∀ d ∈ ds, d < 10) →
      ∀ c ∈ ds.map Nat.digitChar, isBlank c = false ∧ c ≠ '[' ∧ c ≠ ']' := by
    intro ds hds c hc
    obtain ⟨d, hd, rfl⟩ := List.mem_map.1 hc
    have hlt := hds d hd
    interval_cases d <;> decide
  cases h with
  | digits hne hds => exact hdigits _ hds
  | signed hne hds => exact List.forall_mem_cons.2 ⟨by decide, hdigits _ hds⟩

/-- A number is written without blanks at its ends. -/
theorem Writes.isTrimmed {n : Nat} (h : Writes cs n) : IsTrimmed cs := by
  refine isTrimmed_of_forall ?_ fun c hc => (h.forall_mem c hc).1
  cases h with
  | digits hne hds => simpa using hne
  | signed hne hds => simp

/-- **Which texts are read as a number.** -/
theorem count?_eq_some_iff {bound n : Nat} :
    count? bound cs = some n ↔ Writes cs n ∧ n < bound := by
  rw [count?.eq_def, Option.filter_eq_some_iff, decide_eq_true_eq]
  refine and_congr_left fun _ => ?_
  split
  · next rest =>
    rw [digits?_eq_some_iff]
    constructor
    · rintro ⟨ds, hne, hds, rfl, rfl⟩
      exact .signed hne hds
    · intro h
      generalize hcs : '+' :: rest = cs at h
      cases h with
      | @digits ds hne hds =>
          obtain ⟨d, ds, rfl⟩ := List.exists_cons_of_ne_nil hne
          obtain ⟨hplus, -⟩ := List.cons.inj hcs
          exact absurd hplus.symm (digitChar_ne_plus (hds d List.mem_cons_self))
      | @signed ds hne hds => exact ⟨ds, hne, hds, (List.cons.inj hcs).2, rfl⟩
  · next hsign =>
    rw [digits?_eq_some_iff]
    constructor
    · rintro ⟨ds, hne, hds, rfl, rfl⟩
      exact .digits hne hds
    · intro h
      cases h with
      | digits hne hds => exact ⟨_, hne, hds, rfl, rfl⟩
      | signed hne hds => exact absurd rfl (hsign _)

end Mavlink.Text
