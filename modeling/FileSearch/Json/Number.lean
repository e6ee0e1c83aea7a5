/-
This file evaluates the numerals of a JSON text in sixty-four bits.
-/

import FileSearch.Decimal.Rounding
import FileSearch.Json.Value

namespace FileSearch.Json

open FileSearch.Decimal

/-- A number is an integer of sixty-four bits where it is written as one, and a rounded decimal
elsewhere. -/
inductive Number where
  | integer (value : Int)
  | decimal (negative : Bool) (magnitude : Binary64)
  deriving DecidableEq

/-- An unsigned integer of sixty-four bits is below this number. -/
def significandBound : Nat := 18446744073709551616

/-- The magnitude of a negative integer of sixty-four bits is at most this number. -/
def negativeBound : Nat := 9223372036854775808

/-- A positive integer of thirty-two bits is below this number. -/
def exponentBound : Nat := 2147483648

/-- A significand of sixty-four bits takes digits until one no longer fits; that digit and all
behind it are left over. -/
def appendFitting (significand : Nat) : List Nat → Nat × List Nat
  | [] => (significand, [])
  | digit :: rest =>
    let extended := significand * 10 + digit
    if extended < significandBound then appendFitting extended rest
    else (significand, digit :: rest)

/-- An exponent of thirty-two bits takes digits until one no longer fits. The result is the
exponent, or the number of digits behind the one that did not fit. -/
def exponentValue (exponent : Nat) : List Nat → Except Nat Nat
  | [] => .ok exponent
  | digit :: rest =>
    let extended := exponent * 10 + digit
    if extended < exponentBound then exponentValue extended rest else .error rest.length

/-- This is the magnitude of a power of ten from `10 ^ 0` to `10 ^ 308`. -/
def powerOfTen (exponent : Nat) : Binary64 :=
  (Binary64.ofRatio? (Nat.pow 10 exponent) 1).getD Binary64.zero

/-- A magnitude is multiplied or divided by one power of ten. An exponent below the range of the
powers takes steps of `10 ^ 308` first, and what is left of the magnitude when no step is left is
taken for zero. -/
def scale? (magnitude : Binary64) (exponent : Int) : Nat → Option Binary64
  | 0 => some Binary64.zero
  | steps + 1 =>
    if exponent.natAbs ≤ 308 then
      if 0 ≤ exponent then magnitude.multiply? (powerOfTen exponent.toNat)
      else magnitude.divide? (powerOfTen (-exponent).toNat)
    else if magnitude.mantissa = 0 then some magnitude
    else if 0 ≤ exponent then none
    else
      (magnitude.divide? (powerOfTen 308)).bind fun quotient =>
        scale? quotient (exponent + 308) steps

/-- A significand of sixty-four bits is zero after two steps, so four are enough. -/
def scaled? (significand : Nat) (exponent : Int) : Option Binary64 :=
  (Binary64.ofRatio? significand 1).bind fun magnitude => scale? magnitude exponent 4

/-- A whole numeral is an integer where it fits into sixty-four bits; a negative zero is a
decimal. -/
def wholeNumber (negative : Bool) (significand : Nat) : Number :=
  if !negative then .integer significand
  else if significand = 0 ∨ negativeBound < significand then
    .decimal true ((Binary64.ofRatio? significand 1).getD Binary64.zero)
  else .integer (-significand)

/-- A numeral has no value when its magnitude is too large. The error is the number of digits at the
end of the numeral that this is known without. -/
def Numeral.number (numeral : Numeral) : Except Nat Number :=
  let (whole, uncounted) := appendFitting 0 numeral.whole
  if uncounted = [] ∧ numeral.fraction = [] ∧ numeral.exponent = none then
    .ok (wholeNumber numeral.negative whole)
  else
    let (significand, unused) := appendFitting whole numeral.fraction
    let places : Int := uncounted.length - (numeral.fraction.length - unused.length)
    let decimal := fun (exponent : Int) =>
      match scaled? significand exponent with
      | some magnitude => .ok (.decimal numeral.negative magnitude)
      | none => .error 0
    match numeral.exponent with
    | none => decimal places
    | some exponent =>
      match exponentValue 0 exponent.digits with
      | .ok value => decimal (if exponent.negative then places - value else places + value)
      | .error unread =>
        if significand = 0 ∨ exponent.negative then
          .ok (.decimal numeral.negative Binary64.zero)
        else .error unread

end FileSearch.Json
