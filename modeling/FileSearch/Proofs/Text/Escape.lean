/-
This file takes an escaped text back. The backslashes that were added stand directly in front of the
quotes, whatever backslashes the value has of its own.
-/

import FileSearch.Text.Literal
import Mathlib.Logic.Function.Basic

namespace FileSearch.Text

/-- This function deletes the backslash in front of each quote. -/
def unescape : List Char → List Char
  | '\\' :: '\'' :: rest => '\'' :: unescape rest
  | character :: rest => character :: unescape rest
  | [] => []

/-- No escaped text begins with a quote. -/
theorem escape_ne_quote_cons (value rest : List Char) : escape value ≠ '\'' :: rest := by
  cases value with
  | nil => exact fun same => nomatch same
  | cons character value =>
    by_cases quote : character = '\''
    · subst quote
      rw [escape_cons_quote]
      exact fun same => absurd (List.cons.inj same).1 (by decide)
    · rw [escape_cons_of_ne quote]
      exact fun same => quote (List.cons.inj same).1

/-- A character stays unless it is a backslash in front of a quote. -/
theorem unescape_cons {character : Char} {rest : List Char}
    (stays : ∀ behind, character :: rest ≠ '\\' :: '\'' :: behind) :
    unescape (character :: rest) = character :: unescape rest := by
  rw [unescape]
  intro behind backslash quote
  exact stays behind (by rw [backslash, quote])

/-- Each quote takes its own backslash with it, and a backslash of the value is never the one in
front of a quote. -/
theorem unescape_escape (value : List Char) : unescape (escape value) = value := by
  induction value with
  | nil => rfl
  | cons character rest inductionHypothesis =>
    by_cases quote : character = '\''
    · subst quote
      rw [escape_cons_quote, unescape, inductionHypothesis]
    · rw [escape_cons_of_ne quote, unescape_cons, inductionHypothesis]
      intro behind same
      exact escape_ne_quote_cons rest behind (List.cons.inj same).2

theorem escape_injective : Function.Injective escape :=
  Function.LeftInverse.injective unescape_escape

/-- The quotes of an escaped text are those of the value, each with a backslash that was added for
it. The induction is on the value: the text in front of the quote ends before the first character,
after the backslash that was added for it, or behind it. -/
theorem exists_quote_of_escape {value before after : List Char}
    (found : escape value = before ++ '\'' :: after) :
    ∃ front back, value = front ++ '\'' :: back ∧ before = escape front ++ ['\\'] ∧
      after = escape back := by
  induction value generalizing before with
  | nil => exact absurd found (by simp [escape])
  | cons character rest inductionHypothesis =>
    by_cases quote : character = '\''
    · subst quote
      rw [escape_cons_quote] at found
      cases before with
      | nil => exact absurd (List.cons.inj found).1 (by decide)
      | cons first before =>
        obtain ⟨rfl, same⟩ := List.cons.inj found
        cases before with
        | nil => exact ⟨[], rest, rfl, rfl, (List.cons.inj same).2.symm⟩
        | cons second before =>
          rw [List.append_eq, List.cons_append, List.cons.injEq] at same
          obtain ⟨rfl, same⟩ := same
          obtain ⟨front, back, rfl, rfl, rfl⟩ := inductionHypothesis same
          exact ⟨'\'' :: front, back, rfl, rfl, rfl⟩
    · rw [escape_cons_of_ne quote] at found
      cases before with
      | nil => exact absurd (List.cons.inj found).1 quote
      | cons first before =>
        obtain ⟨rfl, same⟩ := List.cons.inj found
        obtain ⟨front, back, rfl, rfl, rfl⟩ := inductionHypothesis same
        refine ⟨character :: front, back, rfl, ?_, rfl⟩
        rw [escape_cons_of_ne quote, List.cons_append]

theorem escape_eq_append_quote_iff {value before after : List Char} :
    escape value = before ++ '\'' :: after ↔
      ∃ front back, value = front ++ '\'' :: back ∧ before = escape front ++ ['\\'] ∧
        after = escape back := by
  refine ⟨exists_quote_of_escape, ?_⟩
  rintro ⟨front, back, rfl, rfl, rfl⟩
  rw [escape_append, escape_cons_quote, List.append_cons]

end FileSearch.Text
