/-
This file rounds a quotient to a whole number and a ratio to a binary floating-point number.
-/

namespace FileSearch.Decimal

/-- The nearest whole number to a quotient; of two equally near ones the even one is taken. -/
def roundDivide (numerator denominator : Nat) : Nat :=
  let quotient := numerator / denominator
  let remainder := numerator % denominator
  if 2 * remainder < denominator then quotient
  else if denominator < 2 * remainder then quotient + 1
  else quotient + quotient % 2

/-- A magnitude with sixty-four bits of storage is `mantissa * 2 ^ exponent`. The mantissa stays
below `2 ^ 53`, and it reaches `2 ^ 52` unless the exponent is the least one, which is `-1074`. -/
structure Binary64 where
  mantissa : Nat
  exponent : Int
  deriving DecidableEq

namespace Binary64

def zero : Binary64 := ⟨0, -1074⟩

/-- A mantissa is below `2 ^ 53`. -/
def mantissaBound : Nat := 9007199254740992

/-- A mantissa with all its binary digits is at least `2 ^ 52`. -/
def leastNormal : Nat := 4503599627370496

def leastExponent : Int := -1074

def greatestExponent : Int := 971

/-- This power of two is a numerator and a denominator, of which one is one. -/
def powerOfTwo (exponent : Int) : Nat × Nat :=
  (Nat.pow 2 exponent.toNat, Nat.pow 2 (-exponent).toNat)

/-- This is the exponent of the leading binary digit of a positive ratio. -/
def leadingExponent (numerator denominator : Nat) : Int :=
  let guess : Int := numerator.log2 - denominator.log2
  let power := powerOfTwo guess
  if denominator * power.1 ≤ numerator * power.2 then guess else guess - 1

/-- The nearest magnitude to a ratio has the even mantissa of two equally near ones, and there is
none beyond the greatest exponent. -/
def ofRatio? (numerator denominator : Nat) : Option Binary64 :=
  if numerator = 0 then some zero
  else
    let exponent := max (leadingExponent numerator denominator - 52) leastExponent
    let power := powerOfTwo exponent
    let mantissa := roundDivide (numerator * power.2) (denominator * power.1)
    let rounded : Binary64 :=
      if mantissa = mantissaBound then ⟨leastNormal, exponent + 1⟩ else ⟨mantissa, exponent⟩
    if greatestExponent < rounded.exponent then none else some rounded

/-- This is the exact value of a magnitude as a ratio. -/
def toRatio (value : Binary64) : Nat × Nat :=
  let power := powerOfTwo value.exponent
  (value.mantissa * power.1, power.2)

/-- The rounded product of two magnitudes. -/
def multiply? (first second : Binary64) : Option Binary64 :=
  ofRatio? (first.toRatio.1 * second.toRatio.1) (first.toRatio.2 * second.toRatio.2)

/-- The rounded quotient of two magnitudes. -/
def divide? (first second : Binary64) : Option Binary64 :=
  ofRatio? (first.toRatio.1 * second.toRatio.2) (first.toRatio.2 * second.toRatio.1)

end Binary64

end FileSearch.Decimal
