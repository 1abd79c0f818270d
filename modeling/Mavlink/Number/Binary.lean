/-!
# Binary floating-point numbers

The interchange formats binary32 and binary64 as bit patterns. A pattern without its sign is a
*magnitude*; the magnitudes of a format count up through zero, the subnormal numbers, the normal
numbers, infinity and the NaNs. Every finite magnitude is a whole number of *units*, the least
positive number of the format, so that all arithmetic here is on natural numbers.

Rounding is to the nearest number of the format, and to the even one of two that are equally
near; what lies beyond the greatest finite number by half a step or more becomes infinite.
-/

namespace Mavlink

namespace Binary

/-- A format, given by the widths of its fraction and its exponent in bits. -/
structure Format where
  fractionBits : Nat
  exponentBits : Nat

namespace Format

/-- The 32-bit format. -/
def binary32 : Format := ⟨23, 8⟩

/-- The 64-bit format. -/
def binary64 : Format := ⟨52, 11⟩

/-- The weight of the sign in a pattern, which is the number of magnitudes. -/
def signWeight (f : Format) : Nat :=
  1 <<< (f.fractionBits + f.exponentBits)

/-- The magnitude of infinity. -/
def infinity (f : Format) : Nat :=
  ((1 <<< f.exponentBits) - 1) <<< f.fractionBits

/-- How many times the unit has to be doubled to make one. -/
def unitExponent (f : Format) : Nat :=
  (1 <<< (f.exponentBits - 1)) + f.fractionBits - 2

/-- The number of units in one. -/
def unitsPerOne (f : Format) : Nat :=
  1 <<< f.unitExponent

/-- The exponent of a magnitude: the step to the next magnitude is two to it units. -/
def stepExponent (f : Format) (magnitude : Nat) : Nat :=
  (magnitude >>> f.fractionBits) - 1

/-- The significand of a finite magnitude. -/
def significand (f : Format) (magnitude : Nat) : Nat :=
  let hidden := 1 <<< f.fractionBits
  if magnitude < hidden then magnitude else hidden + magnitude % hidden

/-- The number of units in a finite magnitude. -/
def units (f : Format) (magnitude : Nat) : Nat :=
  f.significand magnitude <<< f.stepExponent magnitude

end Format

/-- The quotient rounded to the nearest whole number, to the even one on a tie. -/
def divNearestEven (n d : Nat) : Nat :=
  let q := n / d
  let r := n % d
  if 2 * r < d then q
  else if d < 2 * r then q + 1
  else q + q % 2

/-- The magnitude nearest to the quotient of two numbers. -/
def Format.round (f : Format) (n d : Nat) : Nat :=
  let n := n * f.unitsPerOne
  let step := (n / d).log2 - f.fractionBits
  min ((step <<< f.fractionBits) + divNearestEven n (d <<< step)) f.infinity

end Binary

open Binary

/-- A number of the 32-bit format. -/
structure Binary32 where
  bits : UInt32
  deriving DecidableEq, Repr

/-- A number of the 64-bit format. -/
structure Binary64 where
  bits : UInt64
  deriving DecidableEq, Repr

namespace Binary32

/-- The pattern without its sign. -/
def magnitude (x : Binary32) : Nat :=
  x.bits.toNat % Format.binary32.signWeight

/-- Whether the sign is set. -/
def isNegative (x : Binary32) : Bool :=
  Format.binary32.signWeight ≤ x.bits.toNat

/-- The number with the given sign and magnitude. -/
def ofMagnitude (negative : Bool) (magnitude : Nat) : Binary32 :=
  ⟨UInt32.ofNat ((if negative then Format.binary32.signWeight else 0) + magnitude)⟩

end Binary32

namespace Binary64

/-- The pattern without its sign. -/
def magnitude (x : Binary64) : Nat :=
  x.bits.toNat % Format.binary64.signWeight

/-- Whether the sign is set. -/
def isNegative (x : Binary64) : Bool :=
  Format.binary64.signWeight ≤ x.bits.toNat

/-- The number with the given sign and magnitude. -/
def ofMagnitude (negative : Bool) (magnitude : Nat) : Binary64 :=
  ⟨UInt64.ofNat ((if negative then Format.binary64.signWeight else 0) + magnitude)⟩

/-- Whether the number is not a number. -/
def isNaN (x : Binary64) : Bool :=
  Format.binary64.infinity < x.magnitude

/-- Whether the number is neither infinite nor not a number. -/
def isFinite (x : Binary64) : Bool :=
  x.magnitude < Format.binary64.infinity

/-- The number of the 64-bit format nearest to an integer. -/
def ofInt (n : Int) : Binary64 :=
  ofMagnitude (n < 0) (Format.binary64.round n.natAbs 1)

/-- The same number in the wider format. A NaN keeps its sign and its fraction and becomes
quiet. -/
def widen (x : Binary32) : Binary64 :=
  let m := x.magnitude
  let f := Format.binary32
  let wide := Format.binary64
  ofMagnitude x.isNegative <|
    if m < f.infinity then wide.round (f.units m) f.unitsPerOne
    else if m = f.infinity then wide.infinity
    else wide.infinity + (((m - f.infinity) ||| (1 <<< 22)) <<< 29)

/-- The nearest number of the narrower format. A NaN keeps its sign and the high part of its
fraction and becomes quiet. -/
def narrow (x : Binary64) : Binary32 :=
  let m := x.magnitude
  let f := Format.binary32
  let wide := Format.binary64
  .ofMagnitude x.isNegative <|
    if m < wide.infinity then f.round (wide.units m) wide.unitsPerOne
    else if m = wide.infinity then f.infinity
    else f.infinity + (((m - wide.infinity) >>> 29) ||| (1 <<< 22))

/-- The greatest finite number of the narrower format. -/
def maxNarrow : Binary64 :=
  widen ⟨0x7f7fffff⟩

/-- Whether the number is finite but larger than every finite number of the narrower format. -/
def exceedsNarrow (x : Binary64) : Bool :=
  x.isFinite && maxNarrow.magnitude < x.magnitude

end Binary64

end Mavlink
