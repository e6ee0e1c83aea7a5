/-
This file writes the digits of a decimal with a point or with an exponent.
-/

import FileSearch.Decimal.Shortest

namespace FileSearch.Decimal

def digitText (digits : List Nat) : List Char :=
  digits.map Nat.digitChar

/-- A layout keeps the point where the leading place lies in a range and uses an exponent
elsewhere. -/
structure Layout where
  leastPlace : Int
  greatestPlace : Int

/-- The point is used from five zeros behind it to sixteen digits in front of it. -/
def Layout.standard : Layout := ⟨-5, 15⟩

/-- A positional text has at least one digit on each side of the point. -/
def positional (decimal : Digits) : List Char :=
  if decimal.leading < 0 then
    ['0', '.'] ++ List.replicate (-decimal.leading - 1).toNat '0' ++ digitText decimal.digits
  else
    let count := decimal.leading.toNat + 1
    let padded := decimal.digits ++ List.replicate (count - decimal.digits.length) 0
    let behind := padded.drop count
    digitText (padded.take count) ++ ['.'] ++ digitText (if behind = [] then [0] else behind)

/-- An exponent text has one digit in front of the point, no point behind a single digit, and a sign
in front of the exponent. -/
def scientific (decimal : Digits) : List Char :=
  let behind := decimal.digits.drop 1
  let fraction := if behind = [] then [] else '.' :: digitText behind
  let sign := if decimal.leading < 0 then '-' else '+'
  digitText (decimal.digits.take 1) ++ fraction ++ ['e', sign] ++
    Nat.toDigits 10 decimal.leading.natAbs

/-- This function writes a magnitude by its shortest decimal. -/
def Layout.write (layout : Layout) (value : Binary64) : List Char :=
  let decimal := shortest value
  if layout.leastPlace ≤ decimal.leading ∧ decimal.leading ≤ layout.greatestPlace then
    positional decimal
  else
    scientific decimal

end FileSearch.Decimal
