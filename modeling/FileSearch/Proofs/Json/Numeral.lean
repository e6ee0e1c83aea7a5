/-
This file reads the numerals of a JSON text. A numeral is taken whole, whatever its size; a numeral
without a value can be refused.
-/

import FileSearch.Json.Scalar
import FileSearch.Proofs.Json.Reading

namespace FileSearch.Json

/-- A numeral is bounded when its magnitude is not too large for a number. -/
def Numeral.Bounded (numeral : Numeral) : Prop :=
  ∃ number, numeral.number = .ok number

namespace Reader

variable {condition : Prop}

theorem digitValues_writeDigits {digits : List Nat} (small : ∀ digit ∈ digits, digit < 10) :
    digitValues (writeDigits digits) = digits := by
  rw [digitValues, writeDigits, List.map_map]
  refine (List.map_congr_left fun digit member => ?_).trans (List.map_id digits)
  rw [Function.comp_apply, Nat.toNat_digitChar_of_lt_ten (small digit member)]
  exact Nat.add_sub_cancel_left 48 digit

theorem takes_digits {digits : List Nat} {rest : List Char}
    (small : ∀ digit ∈ digits, digit < 10) (stops : Stops Char.isDigit rest) :
    Takes condition Reader.digits (writeDigits digits ++ rest) digits rest := by
  have all : ∀ character ∈ writeDigits digits, character.isDigit = true :=
    List.forall_mem_map.mpr fun digit member => by
      rw [Nat.isDigit_digitChar, decide_eq_true (small digit member)]
  have taken : Takes condition Reader.digits (writeDigits digits ++ rest)
      (digitValues (writeDigits digits)) rest := (takes_takeWhile all stops).map digitValues
  rw [digitValues_writeDigits small] at taken
  exact taken

theorem takes_someDigits {digits : List Nat} {rest : List Char} (cut : Cause)
    (decimal : Decimal digits) (stops : Stops Char.isDigit rest) :
    Takes condition (someDigits cut) (writeDigits digits ++ rest) digits rest := by
  cases digits with
  | nil => exact absurd rfl decimal.nonempty
  | cons digit digits =>
    have first : (Nat.digitChar digit).isDigit = true := by
      rw [Nat.isDigit_digitChar, decide_eq_true (decimal.small digit List.mem_cons_self)]
    refine (takes_peek _).bind ?_
    simp only [writeDigits, List.map_cons, List.cons_append, List.head?_cons, first, if_true]
    exact takes_digits decimal.small stops

theorem takes_wholePart {digits : List Nat} {rest : List Char} (cut : Cause)
    (decimal : Decimal digits) (noLeadingZero : digits.head? = some 0 → digits = [0])
    (stops : Stops Char.isDigit rest) :
    Takes condition (wholePart cut) (writeDigits digits ++ rest) digits rest := by
  refine (takes_peek _).bind ?_
  by_cases zero : digits.head? = some 0
  · rw [noLeadingZero zero]
    refine (takes_skip_one '0' rest).bind ((takes_peek rest).bind ?_)
    cases rest with
    | nil => exact .pure [0] []
    | cons character rest =>
      simp only [List.head?_cons, stops character rfl]
      exact .pure [0] (character :: rest)
  · split
    next found =>
      cases digits with
      | nil => exact absurd rfl decimal.nonempty
      | cons digit digits =>
        exact absurd (congrArg some (Nat.digitChar_eq_zero.mp (Option.some.inj found))) zero
    next => exact takes_someDigits cut decimal stops

theorem takes_fractionPart {digits : List Nat} {text rest : List Char} (cut : Cause)
    (writes : FractionText digits text) (stops : Stops Char.isDigit rest)
    (noPoint : rest.head? ≠ some '.') :
    Takes condition (fractionPart cut) (text ++ rest) digits rest := by
  cases writes with
  | absent =>
    refine (takes_peek _).bind ?_
    split
    next found => exact absurd found noPoint
    next => exact .pure [] rest
  | present decimal =>
    exact (takes_peek _).bind
      ((takes_skip_one '.' _).bind (takes_someDigits cut decimal stops))

/-- A digit is no sign. -/
theorem not_sign_of_decimal {digits : List Nat} (decimal : Decimal digits) (rest : List Char) :
    ¬ ((writeDigits digits ++ rest).head? = some '+' ∨
      (writeDigits digits ++ rest).head? = some '-') := by
  cases digits with
  | nil => exact absurd rfl decimal.nonempty
  | cons digit digits =>
    rintro (sign | sign)
    · exact Nat.digitChar_ne '+' rfl (Option.some.inj sign)
    · exact Nat.digitChar_ne '-' rfl (Option.some.inj sign)

theorem takes_exponentPart {exponent : Option Exponent} {text rest : List Char} (cut : Cause)
    (writes : ExponentText exponent text) (delimited : Delimited rest) :
    Takes condition (exponentPart cut) (text ++ rest) exponent rest := by
  have stops : Stops Char.isDigit rest := fun character member => (delimited character member).1
  refine (takes_peek _).bind ?_
  cases writes with
  | absent =>
    have noMark : ¬ (rest.head? = some 'e' ∨ rest.head? = some 'E') := by
      rintro (mark | mark)
      · exact (delimited 'e' mark).2.2.1 rfl
      · exact (delimited 'E' mark).2.2.2 rfl
    rw [List.nil_append, if_neg noMark]
    exact .pure none rest
  | @negative digits mark marks decimal =>
    rw [List.cons_append, List.head?_cons, if_pos (by simpa using marks)]
    refine (takes_skip_one mark _).bind ((takes_peek _).bind ?_)
    refine (takes_skip_one '-' _).bind ?_
    exact (takes_someDigits cut decimal stops).bind (.pure _ rest)
  | @positive digits mark marks decimal =>
    rw [List.cons_append, List.head?_cons, if_pos (by simpa using marks)]
    refine (takes_skip_one mark _).bind ((takes_peek _).bind ?_)
    refine (takes_skip_one '+' _).bind ?_
    exact (takes_someDigits cut decimal stops).bind (.pure _ rest)
  | @unsigned digits mark marks decimal =>
    have noSign := not_sign_of_decimal decimal rest
    rw [List.cons_append, List.head?_cons, if_pos (by simpa using marks)]
    refine (takes_skip_one mark _).bind ((takes_peek _).bind ?_)
    rw [if_neg noSign]
    refine (takes_someDigits cut decimal stops).bind ?_
    rw [decide_eq_false fun sign => noSign (.inr sign)]
    exact .pure _ rest

/-- An exponent starts with its mark, so it ends the digits and the fraction in front of it. -/
theorem stops_exponent {exponent : Option Exponent} {text rest : List Char}
    (writes : ExponentText exponent text) (delimited : Delimited rest) :
    Stops Char.isDigit (text ++ rest) ∧ (text ++ rest).head? ≠ some '.' := by
  have marked : ∀ {mark : Char}, mark = 'e' ∨ mark = 'E' → ∀ behind,
      Stops Char.isDigit (mark :: behind) ∧ (mark :: behind).head? ≠ some '.' := by
    rintro mark (rfl | rfl) behind
    · exact ⟨fun character member => by cases member; rfl, by simp⟩
    · exact ⟨fun character member => by cases member; rfl, by simp⟩
  cases writes with
  | absent =>
    refine ⟨fun character member => (delimited character member).1, fun point => ?_⟩
    exact (delimited '.' point).2.1 rfl
  | negative marks decimal => exact marked marks _
  | positive marks decimal => exact marked marks _
  | unsigned marks decimal => exact marked marks _

theorem stops_fraction {digits : List Nat} {text rest : List Char}
    (writes : FractionText digits text) (stops : Stops Char.isDigit rest) :
    Stops Char.isDigit (text ++ rest) := by
  cases writes with
  | absent => exact stops
  | present decimal => exact fun character member => by cases member; rfl

/-- The parts of a numeral behind its sign follow each other. -/
theorem takes_numeral {numeral : Numeral} {text rest : List Char} (cut : Cause)
    (writes : NumeralText numeral text) (delimited : Delimited rest) :
    Takes condition (Reader.numeral cut) (text ++ rest) numeral rest := by
  cases writes with
  | @parts fraction exponent whole noLeadingZero writesFraction writesExponent =>
    obtain ⟨negative, digits, places, power⟩ := numeral
    obtain ⟨stops, noPoint⟩ := stops_exponent writesExponent delimited
    have stopsWhole := stops_fraction writesFraction stops
    have unsigned : Takes condition
        (do
          let whole ← wholePart cut
          let fraction ← fractionPart cut
          return ⟨negative, whole, fraction, ← exponentPart cut⟩)
        (writeDigits digits ++ (fraction ++ (exponent ++ rest)))
        (Numeral.mk negative digits places power) rest :=
      (takes_wholePart cut whole noLeadingZero stopsWhole).bind
        ((takes_fractionPart cut writesFraction stops noPoint).bind
          ((takes_exponentPart cut writesExponent delimited).bind (.pure _ rest)))
    simp only [List.append_assoc]
    cases negative with
    | false =>
      have noSign : (writeDigits digits ++ (fraction ++ (exponent ++ rest))).head? ≠ some '-' :=
        mt Or.inr (not_sign_of_decimal whole _)
      refine (takes_peek _).bind ?_
      simp only [Bool.false_eq_true, if_false, List.nil_append, noSign, decide_false]
      exact unsigned
    | true =>
      refine (takes_peek _).bind ?_
      exact (takes_skip_one '-' _).bind unsigned

theorem takes_boundedNumeral {numeral : Numeral} {text rest : List Char}
    (writes : NumeralText numeral text) (delimited : Delimited rest) :
    Takes numeral.Bounded boundedNumeral (text ++ rest) numeral rest := by
  refine (takes_numeral .endOfValue writes delimited).bind fun position => ?_
  cases number : numeral.number with
  | ok value => exact .inl ⟨position, rfl⟩
  | error unread =>
    refine .inr ⟨fun bounded => ?_, _, rfl⟩
    obtain ⟨value, same⟩ := bounded
    rw [number] at same
    cases same

end Reader

end FileSearch.Json
