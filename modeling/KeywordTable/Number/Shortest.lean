import KeywordTable.Number.Binary64

/-!
# The Shortest Decimal

A number is shown with the fewest digits that read back as the same number,
and of those decimals the nearest one, the larger of two that are equally near.
A decimal reads back if it lies in the
interval of reals that round to the number, the ends belonging to it when the
mantissa is even.

For each count of digits only two decimals have to be looked at, the
neighbours of the number on the grid of that many digits: if any point of the
grid lies in the interval, one of these does. All comparisons are between
natural numbers, a quarter of the last mantissa bit being the common unit.

The digits are written in positional notation whatever the size of the number,
with one digit at least on each side of the point.

## Main definitions

* `Binary64.shortest`: The digits of the shortest decimal and its scale.
* `Binary64.text`: The number as messages show it.
-/

namespace KeywordTable

namespace Binary64

/-- The decimals that read back as a positive number form an interval between
    `low` and `high`, which count quarters of the last mantissa bit. -/
structure Interval where
  low : Nat
  mid : Nat
  high : Nat
  closed : Bool
  unit : Int

/-- The interval of a positive number. The gap below a power of two is half as
    wide as the one above it. -/
def interval (mantissa : Nat) (exponent : Int) : Interval :=
  { low :=
      if mantissa = Nat.pow 2 52 ∧ minExponent < exponent then 4 * mantissa - 1
      else 4 * mantissa - 2
    mid := 4 * mantissa
    high := 4 * mantissa + 2
    closed := mantissa % 2 == 0
    unit := exponent - 2 }

namespace Interval

/-- Factors that make decimals of the given scale and counts of the unit
    comparable. -/
def factors (i : Interval) (scale : Int) : Nat × Nat :=
  (Nat.pow 10 scale.toNat * Nat.pow 2 (-i.unit).toNat,
    Nat.pow 2 i.unit.toNat * Nat.pow 10 (-scale).toNat)

/-- The decimal `digits * 10 ^ scale` lies in the interval. -/
def contains (i : Interval) (digits : Nat) (scale : Int) : Bool :=
  let (f, g) := i.factors scale
  if i.closed then i.low * g ≤ digits * f && digits * f ≤ i.high * g
  else i.low * g < digits * f && digits * f < i.high * g

/-- The number of digits before the point: the number is below this power of
    ten and not below the one before it. -/
def magnitude (i : Interval) : Int :=
  let guess := ((i.mid.log2 : Int) + i.unit) * 1233 / 4096
  let below (t : Int) : Bool :=
    let (f, g) := i.factors t
    i.mid * g < f
  ([guess - 1, guess, guess + 1].find? below).getD (guess + 2)

/-- The nearer to the number of its two neighbours among the decimals of the
    given scale, of those that lie in the interval. A tie goes to the larger. -/
def nearest? (i : Interval) (scale : Int) : Option Nat :=
  let (f, g) := i.factors scale
  let d := i.mid * g / f
  match i.contains d scale, i.contains (d + 1) scale with
  | true, true => some (if i.mid * g - d * f < (d + 1) * f - i.mid * g then d else d + 1)
  | true, false => some d
  | false, true => some (d + 1)
  | false, false => none

end Interval

/-- The decimal with its trailing zeros moved into the scale; `fuel` bounds how
    many are moved. -/
def dropZeros (digits : Nat) (scale : Int) : Nat → Nat × Int
  | 0 => (digits, scale)
  | fuel + 1 =>
    if digits % 10 = 0 then dropZeros (digits / 10) (scale + 1) fuel else (digits, scale)

/-- The digits and the scale of the shortest decimal that reads back as the
    positive number. Seventeen digits always suffice. -/
def shortest (mantissa : Nat) (exponent : Int) : Nat × Int :=
  let i := interval mantissa exponent
  let t := i.magnitude
  let found := (List.range 17).findSome? fun (n : Nat) =>
    let scale := t - (n + 1)
    (i.nearest? scale).map fun d => (d, scale)
  let (digits, scale) := found.getD (mantissa, exponent)
  dropZeros digits scale 17

/-- The decimal in positional notation, with a digit on each side of the
    point. -/
def positional (digits : Nat) (scale : Int) : List Char :=
  let ds := Nat.toDigits 10 digits
  if 0 ≤ scale then ds ++ List.replicate scale.toNat '0' ++ ['.', '0']
  else
    let places := (-scale).toNat
    let ds := List.replicate (places + 1 - ds.length) '0' ++ ds
    ds.take (ds.length - places) ++ '.' :: ds.drop (ds.length - places)

/-- The number as messages show it. -/
def text : Binary64 → String
  | .nan => "NaN"
  | .infinite negative => if negative then "-inf" else "inf"
  | .finite negative mantissa exponent =>
    let body :=
      if mantissa = 0 then ['0', '.', '0']
      else
        let (digits, scale) := shortest mantissa exponent
        positional digits scale
    String.ofList (if negative then '-' :: body else body)

end Binary64

end KeywordTable
