import Mavlink.Json.Basic
import Mavlink.Number.Decimal
import Mavlink.Text.Lexical

/-!
# Numbers in JSON texts

A number is written by a whole part, an optional fraction and an optional exponent of ten. Without
fraction and exponent it is a whole number, if it is in range. Any other number stands for the
floating-point number nearest to it, and for none if that is infinite. Only so many digits are read
as are needed to find it.
-/

namespace Mavlink

open Binary

/-- A number as it is written. The fraction is empty if there is none. -/
structure NumberLiteral where
  isNegative : Bool
  whole : List Nat
  fraction : List Nat
  exponent? : Option Int
  deriving DecidableEq, Repr

namespace NumberLiteral

/-! ### Reading -/

/-- One or more digits at the start of a text, and the rest. -/
def digits? (cs : List Char) : Option (List Nat × List Char) :=
  match cs.takeWhile Char.isDigit with
  | [] => none
  | ds => some (ds.filterMap Text.digit?, cs.dropWhile Char.isDigit)

/-- The whole part; after a zero no further digit is read. -/
def whole? : List Char → Option (List Nat × List Char)
  | '0' :: rest => some ([0], rest)
  | cs => digits? cs

/-- The digits after the point, if there is a point. -/
def fraction? : List Char → Option (List Nat × List Char)
  | '.' :: rest => digits? rest
  | cs => some ([], cs)

/-- The number that the digits write. -/
def valueOf (digits : List Nat) : Nat :=
  digits.foldl (fun value d => 10 * value + d) 0

/-- The exponent without its sign. -/
def unsignedExponent? (isNegative : Bool) (cs : List Char) : Option (Option Int × List Char) :=
  (digits? cs).map fun (ds, rest) =>
    (some (if isNegative then -(valueOf ds : Int) else valueOf ds), rest)

/-- The exponent after its mark. -/
def signedExponent? : List Char → Option (Option Int × List Char)
  | '+' :: rest => unsignedExponent? false rest
  | '-' :: rest => unsignedExponent? true rest
  | cs => unsignedExponent? false cs

/-- The exponent, if there is one. -/
def exponentOf? : List Char → Option (Option Int × List Char)
  | 'e' :: rest | 'E' :: rest => signedExponent? rest
  | cs => some (none, cs)

/-- The number after its sign. -/
def unsigned? (isNegative : Bool) (cs : List Char) : Option (NumberLiteral × List Char) := do
  let (whole, cs) ← whole? cs
  let (fraction, cs) ← fraction? cs
  let (exponent?, cs) ← exponentOf? cs
  return ({ isNegative, whole, fraction, exponent? }, cs)

/-- The number at the start of a text, and the rest. -/
def ofText? : List Char → Option (NumberLiteral × List Char)
  | '-' :: rest => unsigned? true rest
  | cs => unsigned? false cs

/-! ### Meaning -/

/-- The fraction without the zeros at its end. -/
def shortFraction (n : NumberLiteral) : List Nat :=
  (n.fraction.reverse.dropWhile (· = 0)).reverse

/-- The digits from the first one on that is not zero, without the zeros at the end of the
fraction. -/
def significantDigits (n : NumberLiteral) : List Nat :=
  (n.whole ++ n.shortFraction).dropWhile (· = 0)

/-- How many significant digits are read. The points halfway between two neighbouring
floating-point numbers have no more. -/
def maxDigits : Nat := 768

/-- The decimal that is read, without its sign. If there are more significant digits than are read,
a one stands for all others: it lifts the number off a halfway point and does not reach the next
one. It also stands for zeros at the end of a whole part, so that such a number is rounded away
from zero if it lies halfway. -/
def decimal (n : NumberLiteral) : Decimal :=
  let exponent := n.exponent?.getD 0 - n.shortFraction.length
  let unread := n.significantDigits.drop maxDigits
  if unread = [] then ⟨valueOf n.significantDigits, exponent⟩
  else ⟨valueOf (n.significantDigits.take maxDigits ++ [1]), exponent + unread.length - 1⟩

/-- The whole number that is written, if it is in range. A negative zero is no whole number. -/
def wholeNumber? (n : NumberLiteral) : Option Int :=
  let value := valueOf n.whole
  if n.fraction ≠ [] || n.exponent?.isSome then none
  else if !n.isNegative then if value < UInt64.size then some value else none
  else if value ≠ 0 && Int64.minValue.toInt ≤ -value then some (-value)
  else none

/-- The number that is meant. -/
def toNumber (n : NumberLiteral) : JsonNumber :=
  match n.wholeNumber? with
  | some value => .whole value
  | none =>
    let magnitude := n.decimal.magnitude
    if magnitude < Format.binary64.infinity then .float (.ofMagnitude n.isNegative magnitude)
    else .outOfRange

/-! ### Reading uses up the text -/

/-- Digits that were read are used up. -/
theorem length_lt_of_digits? {cs rest : List Char} {ds : List Nat}
    (h : digits? cs = some (ds, rest)) : rest.length < cs.length := by
  unfold digits? at h
  split at h
  · contradiction
  · next hne =>
    obtain ⟨-, rfl⟩ := Prod.mk.injEq .. ▸ Option.some.injEq .. ▸ h
    have hlen := congrArg List.length (@List.takeWhile_append_dropWhile _ Char.isDigit cs)
    have hpos := List.length_pos_iff.2 hne
    simp only [List.length_append] at hlen
    omega

/-- A whole part that was read is used up. -/
theorem length_lt_of_whole? {cs rest : List Char} {ds : List Nat}
    (h : whole? cs = some (ds, rest)) : rest.length < cs.length := by
  unfold whole? at h
  split at h
  · obtain ⟨-, rfl⟩ := Prod.mk.injEq .. ▸ Option.some.injEq .. ▸ h
    exact Nat.lt_succ_self _
  · exact length_lt_of_digits? h

/-- Reading a fraction, or none, adds no characters. -/
theorem length_le_of_fraction? {cs rest : List Char} {ds : List Nat}
    (h : fraction? cs = some (ds, rest)) : rest.length ≤ cs.length := by
  unfold fraction? at h
  split at h
  · exact Nat.le_succ_of_le (Nat.le_of_lt (length_lt_of_digits? h))
  · obtain ⟨-, rfl⟩ := Prod.mk.injEq .. ▸ Option.some.injEq .. ▸ h
    exact Nat.le_refl _

/-- Reading the digits of an exponent, or none, adds no characters. -/
theorem length_le_of_unsignedExponent? {b : Bool} {cs rest : List Char} {e : Option Int}
    (h : unsignedExponent? b cs = some (e, rest)) : rest.length ≤ cs.length := by
  obtain ⟨⟨ds, r⟩, hds, hr⟩ := Option.map_eq_some_iff.1 h
  obtain ⟨-, rfl⟩ := Prod.mk.injEq .. ▸ hr
  exact Nat.le_of_lt (length_lt_of_digits? hds)

/-- Reading the sign and the digits of an exponent, or none, adds no characters. -/
theorem length_le_of_signedExponent? {cs rest : List Char} {e : Option Int}
    (h : signedExponent? cs = some (e, rest)) : rest.length ≤ cs.length := by
  unfold signedExponent? at h
  split at h
  · exact Nat.le_succ_of_le (length_le_of_unsignedExponent? h)
  · exact Nat.le_succ_of_le (length_le_of_unsignedExponent? h)
  · exact length_le_of_unsignedExponent? h

/-- Reading an exponent, or none, adds no characters. -/
theorem length_le_of_exponentOf? {cs rest : List Char} {e : Option Int}
    (h : exponentOf? cs = some (e, rest)) : rest.length ≤ cs.length := by
  unfold exponentOf? at h
  split at h
  · exact Nat.le_succ_of_le (length_le_of_signedExponent? h)
  · exact Nat.le_succ_of_le (length_le_of_signedExponent? h)
  · obtain ⟨-, rfl⟩ := Prod.mk.injEq .. ▸ Option.some.injEq .. ▸ h
    exact Nat.le_refl _

/-- A number that was read is used up. -/
theorem length_lt_of_unsigned? {b : Bool} {cs rest : List Char} {n : NumberLiteral}
    (h : unsigned? b cs = some (n, rest)) : rest.length < cs.length := by
  simp only [unsigned?, Option.bind_eq_bind, Option.bind_eq_some_iff, Option.pure_def] at h
  obtain ⟨⟨_, cs₁⟩, h₁, ⟨_, cs₂⟩, h₂, ⟨_, cs₃⟩, h₃, h₄⟩ := h
  obtain ⟨-, rfl⟩ := Prod.mk.injEq .. ▸ Option.some.injEq .. ▸ h₄
  exact Nat.lt_of_le_of_lt (length_le_of_exponentOf? h₃) <|
    Nat.lt_of_le_of_lt (length_le_of_fraction? h₂) (length_lt_of_whole? h₁)

/-- Reading a number uses up text. -/
theorem length_lt_of_ofText? {cs rest : List Char} {n : NumberLiteral}
    (h : ofText? cs = some (n, rest)) : rest.length < cs.length := by
  unfold ofText? at h
  split at h
  · exact Nat.lt_succ_of_lt (length_lt_of_unsigned? h)
  · exact length_lt_of_unsigned? h

end NumberLiteral

end Mavlink
