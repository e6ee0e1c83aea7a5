/-
This file writes the atoms of a query as symbols. No atom begins another one, so that an atom is
known from any text that it begins.
-/

import FileSearch.Clause
import FileSearch.Proofs.Text.Symbol

namespace FileSearch

open Text (Symbol)

namespace Atom

/-- The literal of a field stands behind its words or in front of them. -/
def fieldSymbols (field : Field) (value : List Char) : List Symbol :=
  match field with
  | .name => Symbol.word "name contains ".toList ++ [.literal value]
  | .mimeType => Symbol.word "mimeType = ".toList ++ [.literal value]
  | .fullText => Symbol.word "fullText contains ".toList ++ [.literal value]
  | .parentId => .literal value :: Symbol.word " in parents".toList
  | .owner => .literal value :: Symbol.word " in owners".toList

def flagSymbols (flag : Flag) (value : Bool) : List Symbol :=
  Symbol.word flag.key.toList ++ Symbol.word " = ".toList ++
    Symbol.word (if value then "true" else "false").toList

/-- These are the symbols of an atom in a query. -/
def symbols : Atom → List Symbol
  | .matching field value => fieldSymbols field value.toList
  | .marked flag value => flagSymbols flag value
  | .modifiedNotBefore bound => Symbol.word "modifiedTime >= ".toList ++ [.literal bound.toList]
  | .modifiedBefore bound => Symbol.word "modifiedTime < ".toList ++ [.literal bound.toList]

/-- A flag is tested without a literal. -/
def literal? : Atom → Option String
  | .matching _ value => some value
  | .marked _ _ => none
  | .modifiedNotBefore bound => some bound
  | .modifiedBefore bound => some bound

/-- This atom has no backslash in its literal. -/
def Plain (atom : Atom) : Prop :=
  ∀ value ∈ atom.literal?, '\\' ∉ value.toList

theorem spell_fieldSymbols (field : Field) (value : List Char) :
    Symbol.spell (fieldSymbols field value) = fieldText field value := by
  cases field with
  | name => exact Symbol.spell_word_literal _ _
  | mimeType => exact Symbol.spell_word_literal _ _
  | fullText => exact Symbol.spell_word_literal _ _
  | parentId => exact Symbol.spell_literal_word _ _
  | owner => exact Symbol.spell_literal_word _ _

theorem spell_flagSymbols (flag : Flag) (value : Bool) :
    Symbol.spell (flagSymbols flag value) = flagText flag value := by
  rw [flagSymbols, Symbol.spell_append, Symbol.spell_append, Symbol.spell_word, Symbol.spell_word,
    Symbol.spell_word, flagText]

theorem spell_symbols (atom : Atom) : Symbol.spell atom.symbols = atom.text := by
  cases atom with
  | matching field value => exact spell_fieldSymbols field value.toList
  | marked flag value => exact spell_flagSymbols flag value
  | modifiedNotBefore bound => exact Symbol.spell_word_literal _ _
  | modifiedBefore bound => exact Symbol.spell_word_literal _ _

theorem literals_fieldSymbols (field : Field) (value : List Char) :
    Symbol.literals (fieldSymbols field value) = [value] := by
  cases field with
  | name => exact Symbol.literals_word_literal _ _
  | mimeType => exact Symbol.literals_word_literal _ _
  | fullText => exact Symbol.literals_word_literal _ _
  | parentId => exact Symbol.literals_literal_word _ _
  | owner => exact Symbol.literals_literal_word _ _

theorem literals_symbols (atom : Atom) :
    Symbol.literals atom.symbols = (atom.literal?.map String.toList).toList := by
  cases atom with
  | matching field value => exact literals_fieldSymbols field value.toList
  | marked flag value =>
    rw [symbols, flagSymbols, Symbol.literals_append, Symbol.literals_append,
      Symbol.literals_word, Symbol.literals_word, Symbol.literals_word]
    rfl
  | modifiedNotBefore bound => exact Symbol.literals_word_literal _ _
  | modifiedBefore bound => exact Symbol.literals_word_literal _ _

/-- No words of an atom hold a quote. -/
theorem noQuote_symbols (atom : Atom) : .plain '\'' ∉ atom.symbols := by
  cases atom with
  | matching field value => cases field <;> simp [symbols, fieldSymbols, Symbol.word]
  | marked flag value => cases flag <;> cases value <;> decide
  | modifiedNotBefore bound => simp [symbols, Symbol.word]
  | modifiedBefore bound => simp [symbols, Symbol.word]

/-- No field begins another one. -/
theorem eq_of_fieldSymbols_append {first second : Field} {value other : List Char}
    {rest others : List Symbol}
    (same : fieldSymbols first value ++ rest = fieldSymbols second other ++ others) :
    first = second ∧ value = other := by
  cases first <;> cases second <;> simp_all [fieldSymbols, Symbol.word]

theorem eq_of_flagSymbols_append {first second : Flag} {value other : Bool}
    {rest others : List Symbol}
    (same : flagSymbols first value ++ rest = flagSymbols second other ++ others) :
    first = second ∧ value = other := by
  cases first <;> cases second <;> cases value <;> cases other <;>
    simp_all [flagSymbols, Symbol.word, Flag.key]

/-- No atom begins another one. -/
theorem eq_of_symbols_append {first second : Atom} {rest others : List Symbol}
    (same : first.symbols ++ rest = second.symbols ++ others) : first = second := by
  cases first with
  | matching field value =>
    cases second with
    | matching other otherValue =>
      obtain ⟨rfl, equal⟩ := eq_of_fieldSymbols_append same
      rw [String.toList_inj.mp equal]
    | marked other otherValue =>
      cases field <;> cases other <;>
        simp [symbols, fieldSymbols, flagSymbols, Symbol.word, Flag.key] at same
    | modifiedNotBefore bound =>
      cases field <;> simp [symbols, fieldSymbols, Symbol.word] at same
    | modifiedBefore bound =>
      cases field <;> simp [symbols, fieldSymbols, Symbol.word] at same
  | marked flag value =>
    cases second with
    | matching other otherValue =>
      cases flag <;> cases other <;>
        simp [symbols, fieldSymbols, flagSymbols, Symbol.word, Flag.key] at same
    | marked other otherValue =>
      obtain ⟨rfl, rfl⟩ := eq_of_flagSymbols_append same
      rfl
    | modifiedNotBefore bound =>
      cases flag <;> simp [symbols, flagSymbols, Symbol.word, Flag.key] at same
    | modifiedBefore bound =>
      cases flag <;> simp [symbols, flagSymbols, Symbol.word, Flag.key] at same
  | modifiedNotBefore bound =>
    cases second with
    | matching other otherValue =>
      cases other <;> simp [symbols, fieldSymbols, Symbol.word] at same
    | marked other otherValue =>
      cases other <;> simp [symbols, flagSymbols, Symbol.word, Flag.key] at same
    | modifiedNotBefore other =>
      simp only [symbols, List.append_assoc, List.append_cancel_left_eq, List.singleton_append,
        List.cons.injEq, Symbol.literal.injEq, String.toList_inj] at same
      rw [same.1]
    | modifiedBefore other => simp [symbols, Symbol.word] at same
  | modifiedBefore bound =>
    cases second with
    | matching other otherValue =>
      cases other <;> simp [symbols, fieldSymbols, Symbol.word] at same
    | marked other otherValue =>
      cases other <;> simp [symbols, flagSymbols, Symbol.word, Flag.key] at same
    | modifiedNotBefore other => simp [symbols, Symbol.word] at same
    | modifiedBefore other =>
      simp only [symbols, List.append_assoc, List.append_cancel_left_eq, List.singleton_append,
        List.cons.injEq, Symbol.literal.injEq, String.toList_inj] at same
      rw [same.1]

end Atom

end FileSearch
