/-
This file finds the shortest decimal that a binary floating-point number can be read back from.
-/

import FileSearch.Decimal.Rounding

namespace FileSearch.Decimal

/-- A decimal has its first digit at the place `10 ^ leading` and the others behind it. -/
structure Digits where
  digits : List Nat
  leading : Int
  deriving DecidableEq

/-- This interval holds the ratios that round to a magnitude. All three numbers are numerators over
one denominator, and the ends belong to the interval when `closed` holds. -/
structure Neighbourhood where
  lower : Nat
  value : Nat
  upper : Nat
  denominator : Nat
  closed : Bool

namespace Neighbourhood

/-- The interval ends halfway to the two neighbours; below a power of two the lower neighbour is
only half as far away. -/
def ofBinary64 (value : Binary64) : Neighbourhood :=
  let power := Binary64.powerOfTwo (value.exponent - 2)
  let narrow := value.mantissa = Binary64.leastNormal ∧ Binary64.leastExponent < value.exponent
  { lower := (4 * value.mantissa - if narrow then 1 else 2) * power.1
    value := 4 * value.mantissa * power.1
    upper := (4 * value.mantissa + 2) * power.1
    denominator := power.2
    closed := value.mantissa % 2 = 0 }

/-- This is the grid of the multiples of `10 ^ place`, with the interval's numerators brought to
the same denominator and the step of the grid behind them. -/
def onGrid (interval : Neighbourhood) (place : Int) : Neighbourhood × Nat :=
  let up := Nat.pow 10 place.toNat
  let down := Nat.pow 10 (-place).toNat
  ({ interval with
      lower := interval.lower * down
      value := interval.value * down
      upper := interval.upper * down },
    interval.denominator * up)

def contains (interval : Neighbourhood) (point : Nat) : Bool :=
  (interval.lower < point && point < interval.upper) ||
    (interval.closed && (point = interval.lower || point = interval.upper))

/-- Of the two grid points around the value, this is the one in the interval; of two the nearer one
is taken, and of two equally near ones the even multiple. -/
def nearestMultiple? (interval : Neighbourhood) (place : Int) : Option Nat :=
  let (interval, step) := interval.onGrid place
  let below := interval.value / step
  let above := below + 1
  let fromBelow := interval.value - below * step
  let toAbove := above * step - interval.value
  match interval.contains (below * step), interval.contains (above * step) with
  | true, true =>
    if fromBelow < toAbove then some below
    else if toAbove < fromBelow then some above
    else some (below + below % 2)
  | true, false => some below
  | false, true => some above
  | false, false => none

/-- This is the place of the leading decimal digit of the value. -/
def leadingPlace (interval : Neighbourhood) : Int :=
  let guess := ((interval.value.log2 : Int) - interval.denominator.log2) * 30103 / 100000 - 2
  let reaches := fun (place : Int) =>
    let (scaled, step) := interval.onGrid place
    step ≤ scaled.value
  ([guess + 1, guess + 2, guess + 3, guess + 4].filter reaches).getLast?.getD guess

end Neighbourhood

/-- The digits of a multiple of `10 ^ place`, without zeros at the end. -/
def Digits.ofMultiple (multiple : Nat) (place : Int) : Digits :=
  let digits := (Nat.toDigits 10 multiple).map fun digit => digit.toNat - '0'.toNat
  let kept := (digits.reverse.dropWhile (· = 0)).reverse
  ⟨kept, place + digits.length - 1⟩

/-- The fewest digits that read back are chosen, at most seventeen, and among those the nearest to
the value; zero has the single digit zero. -/
def shortest (value : Binary64) : Digits :=
  if value.mantissa = 0 then ⟨[0], 0⟩
  else
    let interval := Neighbourhood.ofBinary64 value
    let leading := interval.leadingPlace
    let found := (List.range 17).findSome? fun (count : Nat) =>
      let place := leading - count
      (interval.nearestMultiple? place).bind fun multiple =>
        if multiple = 0 then none else some (Digits.ofMultiple multiple place)
    found.getD ⟨[0], 0⟩

end FileSearch.Decimal
