/-!
# Double Precision Numbers

A decimal literal stands for the double precision number nearest to it, a tie
going to the even neighbour. The number is kept exactly, as a sign, a mantissa
below `2^53` and a power of two, so that rounding is a question about natural
numbers and nothing depends on machine arithmetic.

A literal with a very large or very small exponent is settled before any power
of ten is computed: past four hundred places on either side it is infinite or
zero whatever its digits are.

## Main definitions

* `Binary64`: A double precision number.
* `Binary64.roundDiv`: A quotient rounded to nearest, ties to even.
* `Binary64.ofRatio`: The number nearest to a quotient.
* `Binary64.ofDecimal`: The number nearest to a decimal literal.
-/

namespace KeywordTable

/-- A double precision number. A finite one is `mantissa * 2 ^ exponent` with
    its sign in front; zero has a sign too. -/
inductive Binary64 where
  | finite (negative : Bool) (mantissa : Nat) (exponent : Int)
  | infinite (negative : Bool)
  | nan
  deriving Repr, DecidableEq

namespace Binary64

/-- The power of two that the smallest positive number is. -/
def minExponent : Int := -1074

/-- The largest exponent of a finite number whose mantissa has 53 bits. -/
def maxExponent : Int := 971

/-- The quotient rounded to nearest, a tie going to the even neighbour. -/
def roundDiv (num den : Nat) : Nat :=
  let q := num / den
  let r := num % den
  if 2 * r < den || (2 * r == den && q % 2 == 0) then q else q + 1

/-- The quotient `num / (den * 2 ^ e)` as two natural numbers. -/
def scaled (num den : Nat) (e : Int) : Nat × Nat :=
  (num * Nat.pow 2 (-e).toNat, den * Nat.pow 2 e.toNat)

/-- The number nearest to `num / den`. -/
def ofRatio (negative : Bool) (num den : Nat) : Binary64 :=
  if num = 0 then .finite negative 0 minExponent
  else
    -- The quotient has its leading bit at this place or one below it.
    let guess : Int := (num.log2 : Int) - den.log2 - 52
    let (n, d) := scaled num den guess
    let exponent := max minExponent (if n < d * Nat.pow 2 52 then guess - 1 else guess)
    let (n, d) := scaled num den exponent
    let mantissa := roundDiv n d
    let (mantissa, exponent) :=
      if mantissa = Nat.pow 2 53 then (Nat.pow 2 52, exponent + 1) else (mantissa, exponent)
    if maxExponent < exponent then .infinite negative
    else .finite negative mantissa exponent

/-- The number nearest to `digits * 10 ^ scale`. -/
def ofDecimal (negative : Bool) (digits : Nat) (scale : Int) : Binary64 :=
  let places : Int := scale + (Nat.toDigits 10 digits).length
  if digits = 0 || places < -400 then .finite negative 0 minExponent
  else if 400 < places then .infinite negative
  else ofRatio negative (digits * Nat.pow 10 scale.toNat) (Nat.pow 10 (-scale).toNat)

end Binary64

end KeywordTable
