/-!
# Binary floating-point numbers of 64 bits

A finite number of the format is a sign and a natural number of at most 53 bits times a power of
two. Everything here is exact arithmetic on natural numbers followed by one rounding
(`ofRatio?`), to the nearest number of the format, a tie going to the even mantissa. A result
too large for the format is `none`; there are no infinities.
-/

set_option autoImplicit false

namespace ComposeCluster

/-- The number `± mantissa · 2 ^ exponent`. -/
structure Binary64 where
  negative : Bool
  mantissa : Nat
  exponent : Int
  deriving DecidableEq

namespace Binary64

/-- A power of two. -/
def twoTo (n : Nat) : Nat := Nat.pow 2 n

/-- A power of ten. -/
def tenTo (n : Nat) : Nat := Nat.pow 10 n

/-- The exponent of the numbers closest to zero. -/
def leastExponent : Int := -1074

/-- The exponent of the numbers farthest from zero. -/
def greatestExponent : Int := 971

/-- Zero, with a sign. -/
def zero (negative : Bool) : Binary64 := ⟨negative, 0, leastExponent⟩

/-- `num / den` as a whole number, to the nearest, a tie to the even one. -/
def roundDiv (num den : Nat) : Nat :=
  let quotient := num / den
  let rest := num % den
  if den < 2 * rest ∨ (2 * rest = den ∧ quotient % 2 = 1) then quotient + 1 else quotient

/-- `num / den / 2 ^ exponent` as a numerator and a denominator. -/
def scaled (num den : Nat) (exponent : Int) : Nat × Nat :=
  (num * twoTo (-exponent).toNat, den * twoTo exponent.toNat)

/-- The number of the format nearest to `± num / den`. -/
def ofRatio? (negative : Bool) (num den : Nat) : Option Binary64 :=
  if num = 0 then some (zero negative)
  else
    let guess : Int := (num.log2 : Int) - den.log2 - 52
    let (top, bottom) := scaled num den guess
    let exponent := max (if top < twoTo 52 * bottom then guess - 1 else guess) leastExponent
    let (top, bottom) := scaled num den exponent
    let mantissa := roundDiv top bottom
    let (mantissa, exponent) :=
      if mantissa = twoTo 53 then (twoTo 52, exponent + 1) else (mantissa, exponent)
    if greatestExponent < exponent then none else some ⟨negative, mantissa, exponent⟩

/-- The number nearest to a natural number. -/
def ofNat? (n : Nat) : Option Binary64 := ofRatio? false n 1

/-- The number nearest to `± coefficient · 10 ^ exponent`. Coefficients and exponents may be huge:
those whose result is zero or too large are told by their size alone. -/
def ofDecimal? (negative : Bool) (coefficient : Nat) (exponent : Int) : Option Binary64 :=
  if coefficient = 0 then some (zero negative)
  else if 400 < exponent then none
  else if exponent < -(Int.ofNat (coefficient.log2 / 3 + 402)) then some (zero negative)
  else ofRatio? negative (coefficient * tenTo exponent.toNat) (tenTo (-exponent).toNat)

/-- Whether the number is zero, of either sign. -/
def isZero (x : Binary64) : Bool := x.mantissa == 0

/-- The number with the other sign. -/
def neg (x : Binary64) : Binary64 := { x with negative := !x.negative }

/-- The product, rounded. -/
def mul? (x y : Binary64) : Option Binary64 :=
  let exponent := x.exponent + y.exponent
  ofRatio? (x.negative != y.negative)
    (x.mantissa * y.mantissa * twoTo exponent.toNat) (twoTo (-exponent).toNat)

/-- The quotient, rounded; dividing by zero has no result. -/
def div? (x y : Binary64) : Option Binary64 :=
  let exponent := x.exponent - y.exponent
  if y.mantissa = 0 then none
  else ofRatio? (x.negative != y.negative)
    (x.mantissa * twoTo exponent.toNat) (y.mantissa * twoTo (-exponent).toNat)

end Binary64

end ComposeCluster
