import Mavlink.Number.Binary

/-!
# Decimals

A decimal is a whole number of digits scaled by a power of ten. The number of the 64-bit format
that is nearest to it is found by exact arithmetic. A decimal whose leading digit stands too far
from the point is too large to be finite or too small to differ from zero, and no power of ten is
formed for it.

The other way round, among the decimals that round to a given binary number there are some with the
fewest digits, and among these one is nearest to the number itself. It is found on the grids of
decimals with one, two and up to seventeen digits: a grid has a decimal that rounds to the number
only if one of the number's two neighbours on the grid does. Where both neighbours are equally near,
a tie rule decides.

There are two ways to write the shortest decimal of a number. In messages and displays a number is
always written positionally, with no point if it is whole. The names of infinity and of NaN are
those of that form; they have no other.
-/

namespace Mavlink

/-- The decimal `digits * 10 ^ exponent`. -/
structure Decimal where
  digits : Nat
  exponent : Int
  deriving DecidableEq, Repr

namespace Decimal

/-- A power of ten. -/
def tenTo (k : Nat) : Nat :=
  Nat.pow 10 k

/-- How many decimal digits a number has; zero has none. -/
def length (n : Nat) : Nat :=
  if n = 0 then 0 else (Nat.toDigits 10 n).length

/-- The digits as text. -/
def digitText (d : Decimal) : List Char :=
  Nat.toDigits 10 d.digits

/-- The number of digits before the point, negative if zeros follow the point first. -/
def pointPosition (d : Decimal) : Int :=
  d.digitText.length + d.exponent

/-- How many places the leading digit of a finite number other than zero is away from the point at
most. The greatest and the least such number have 309 digits before the point and 323 zeros after
it. -/
def reach : Nat := 400

/-- The magnitude of the 64-bit format that is nearest to the decimal. -/
def magnitude (d : Decimal) : Nat :=
  if d.digits = 0 || d.pointPosition < -reach then 0
  else if reach < d.pointPosition then Binary.Format.binary64.infinity
  else Binary.Format.binary64.round (d.digits * tenTo d.exponent.toNat) (tenTo (-d.exponent).toNat)

end Decimal

/-! ### The shortest decimal of a binary number -/

namespace Decimal

/-- Which of two equally near decimals is taken. -/
inductive Tie
  | up
  | even
  deriving DecidableEq, Repr

/-- The decimal without zeros at the end of its digits, of which `fuel` bounds the number. -/
def stripZeros : Nat → Decimal → Decimal
  | 0, d => d
  | fuel + 1, d =>
    if d.digits % 10 = 0 then stripZeros fuel ⟨d.digits / 10, d.exponent + 1⟩ else d

end Decimal

namespace Binary

/-- The decimals that round to a number: those between `low` and `high`, on the scale on which
the number itself is `value` and one is `one`. The ends count if `closed`. -/
structure Interval where
  low : Nat
  value : Nat
  high : Nat
  one : Nat
  closed : Bool

/-- The decimals that round to a positive finite magnitude, in quarters of a unit. Below a power
of two the next number is only half as far away. -/
def Format.interval (f : Format) (magnitude : Nat) : Interval :=
  let step := 1 <<< f.stepExponent magnitude
  let value := 4 * f.units magnitude
  let atPower := f.significand magnitude = 1 <<< f.fractionBits && f.stepExponent magnitude ≠ 0
  { low := value - (if atPower then step else 2 * step)
    value := value
    high := value + 2 * step
    one := 4 * f.unitsPerOne
    closed := f.significand magnitude % 2 = 0 }

namespace Interval

open Decimal

/-- Whether the quotient `n / d` lies in the interval. -/
def contains (i : Interval) (n d : Nat) : Bool :=
  if i.closed then i.low * d ≤ n && n ≤ i.high * d else i.low * d < n && n < i.high * d

/-- The exponent of the number's leading decimal digit. -/
def leadingExponent (i : Interval) : Int :=
  if i.one ≤ i.value then (Decimal.length (i.value / i.one) : Int) - 1
  else -(Decimal.length ((i.one - 1) / i.value) : Int)

/-- The decimal in the interval that is nearest to the number on the grid of multiples of
`10 ^ k`, if there is one. -/
def onGrid? (i : Interval) (tie : Decimal.Tie) (k : Int) : Option Decimal :=
  let spacing := i.one * tenTo k.toNat
  let scale := tenTo (-k).toNat
  let below := i.value * scale / spacing
  let rest := i.value * scale % spacing
  let above := below + 1
  let hasBelow := i.contains (below * spacing) scale
  let hasAbove := i.contains (above * spacing) scale
  let nearerAbove := spacing < 2 * rest ||
    (spacing = 2 * rest && (tie = .up || below % 2 = 1))
  if hasBelow && !(hasAbove && nearerAbove) then some ⟨below, k⟩
  else if hasAbove then some ⟨above, k⟩
  else none

/-- The first decimal found on the grids with spacings from `10 ^ k` downwards. -/
def search (i : Interval) (tie : Decimal.Tie) : Nat → Int → Decimal
  | 0, k => ⟨i.value * tenTo (-k).toNat / (i.one * tenTo k.toNat), k⟩
  | more + 1, k => (i.onGrid? tie k).getD (search i tie more (k - 1))

end Interval

end Binary

/-- The shortest decimal that rounds to the absolute value of a finite number. -/
def Binary64.shortest (x : Binary64) (tie : Decimal.Tie) : Decimal :=
  if x.magnitude = 0 then ⟨0, 0⟩
  else
    let i := Binary.Format.binary64.interval x.magnitude
    (i.search tie 17 i.leadingExponent).stripZeros 17

/-! ### Numbers as text -/

namespace Decimal

/-- The decimal written out in full. A whole number has a point and a zero only if
`pointed`. -/
def positional (d : Decimal) (pointed : Bool) : List Char :=
  let digits := d.digitText
  let p := d.pointPosition
  if 0 ≤ d.exponent then
    digits ++ List.replicate d.exponent.toNat '0' ++ (if pointed then ['.', '0'] else [])
  else if 0 < p then
    digits.take p.toNat ++ '.' :: digits.drop p.toNat
  else
    '0' :: '.' :: List.replicate (-p).toNat '0' ++ digits

/-- The decimal with one digit before the point and an exponent of ten, which always has a
sign. -/
def scientific (d : Decimal) : List Char :=
  let fraction := match d.digitText with
    | first :: second :: more => first :: '.' :: second :: more
    | single => single
  let exponent := d.pointPosition - 1
  fraction ++ 'e' :: (if exponent < 0 then '-' else '+') :: Nat.toDigits 10 exponent.natAbs

end Decimal

namespace Binary64

/-- The sign of a number as it is written. -/
def signText (x : Binary64) : List Char :=
  if x.isNegative then ['-'] else []

/-- The number written positionally with the fewest digits that read back. -/
def display (x : Binary64) : String :=
  if x.isNaN then "NaN"
  else String.ofList <| x.signText ++
    if x.isFinite then (x.shortest .up).positional false else ['i', 'n', 'f']

end Binary64

end Mavlink
