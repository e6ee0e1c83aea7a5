/-
This file recovers the field and the value of a test from its text. The words around the literal
tell the fields apart, even where the literal comes first and can hold the words of another field.
-/

import FileSearch.Emission
import FileSearch.Proofs.Text.Escape
import Mathlib.Data.List.Infix

namespace FileSearch

/-- This record holds what stands around the escaped text of a literal, its quotes included. -/
structure Frame where
  opening : List Char
  closing : List Char

namespace Frame

def text (frame : Frame) (value : List Char) : List Char :=
  frame.opening ++ Text.escape value ++ frame.closing

/-- The words stand in front of the literal. -/
def leading (words : List Char) : Frame := ⟨words ++ ['\''], ['\'']⟩

/-- The words stand behind the literal. -/
def trailing (words : List Char) : Frame := ⟨['\''], '\'' :: words⟩

theorem text_leading (words value : List Char) :
    (leading words).text value = words ++ Text.literal value := by
  rw [text, leading, List.append_assoc, List.append_assoc]
  rfl

theorem text_trailing (words value : List Char) :
    (trailing words).text value = Text.literal value ++ words :=
  List.append_cons _ _ _

variable {first second : Frame} {value other : List Char}

/-- Both frames can stand around one text: they begin alike and end alike as far as they go. -/
def Overlaps (first second : Frame) : Prop :=
  (first.opening <+: second.opening ∨ second.opening <+: first.opening) ∧
    (first.closing <:+ second.closing ∨ second.closing <:+ first.closing)
  deriving Decidable

theorem opening_prefix_text (frame : Frame) (value : List Char) :
    frame.opening <+: frame.text value := by
  rw [text, List.append_assoc]
  exact List.prefix_append _ _

theorem closing_suffix_text (frame : Frame) (value : List Char) :
    frame.closing <:+ frame.text value :=
  List.suffix_append _ _

theorem overlaps_of_text_eq (same : first.text value = second.text other) :
    first.Overlaps second := by
  have opens : first.opening <+: second.text other := same ▸ first.opening_prefix_text value
  have closes : first.closing <:+ second.text other := same ▸ first.closing_suffix_text value
  exact ⟨List.prefix_or_prefix_of_prefix opens (second.opening_prefix_text other),
    List.suffix_or_suffix_of_suffix closes (second.closing_suffix_text other)⟩

/-- The same frame around different values gives different texts. -/
theorem text_injective (frame : Frame) : Function.Injective frame.text := by
  intro value other same
  rw [text, text, List.append_left_inj, List.append_right_inj] at same
  exact Text.escape_injective same

end Frame

namespace Field

def frame : Field → Frame
  | .name => .leading "name contains ".toList
  | .mimeType => .leading "mimeType = ".toList
  | .fullText => .leading "fullText contains ".toList
  | .parentId => .trailing " in parents".toList
  | .owner => .trailing " in owners".toList

theorem text_frame (field : Field) (value : List Char) :
    field.frame.text value = Atom.fieldText field value := by
  cases field with
  | name => exact Frame.text_leading _ value
  | mimeType => exact Frame.text_leading _ value
  | fullText => exact Frame.text_leading _ value
  | parentId => exact Frame.text_trailing _ value
  | owner => exact Frame.text_trailing _ value

/-- The frames of two fields begin differently or end differently. -/
theorem eq_of_overlaps {first second : Field} (overlaps : first.frame.Overlaps second.frame) :
    first = second := by
  revert overlaps
  cases first <;> cases second <;> decide

end Field

theorem Atom.fieldText_eq_iff {first second : Field} {value other : List Char} :
    fieldText first value = fieldText second other ↔ first = second ∧ value = other := by
  constructor
  · intro same
    rw [← Field.text_frame, ← Field.text_frame] at same
    obtain rfl := Field.eq_of_overlaps (Frame.overlaps_of_text_eq same)
    exact ⟨rfl, first.frame.text_injective same⟩
  · rintro ⟨rfl, rfl⟩
    rfl

namespace Emission

/-- Tests of fields have the same text only if they test the same field for the same value, from
whatever summaries they are emitted. In the escaped text of a value each quote has a backslash in
front of it that was added for it, and the value comes back when these are deleted. -/
theorem field_tests_have_distinct_texts :
    (∀ (first second : Field) (value other : String) (summary otherSummary : Summary),
      ∃ clause otherClause,
        (Emission.value first value).run summary =
          .ok (clause, summary.recordValue first value) ∧
        (Emission.value second other).run otherSummary =
          .ok (otherClause, otherSummary.recordValue second other) ∧
        (clause.text = otherClause.text ↔ first = second ∧ value = other)) ∧
    (∀ value other, Text.escape value = Text.escape other ↔ value = other) ∧
    (∀ value before after, Text.escape value = before ++ '\'' :: after ↔
      ∃ front back, value = front ++ '\'' :: back ∧ before = Text.escape front ++ ['\\'] ∧
        after = Text.escape back) ∧
    ∀ value, Text.unescape (Text.escape value) = value := by
  refine ⟨fun first second value other summary otherSummary => ?_,
    fun value other => Text.escape_injective.eq_iff,
    fun value before after => Text.escape_eq_append_quote_iff, Text.unescape_escape⟩
  refine ⟨.atom (.matching first value), .atom (.matching second other), rfl, rfl, ?_⟩
  calc Atom.fieldText first value.toList = Atom.fieldText second other.toList
      ↔ first = second ∧ value.toList = other.toList := Atom.fieldText_eq_iff
    _ ↔ first = second ∧ value = other := by rw [String.toList_inj]

end Emission

end FileSearch
