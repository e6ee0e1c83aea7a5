/-
This file reads whole values of a JSON text: every text of a value is taken for the value.
-/

import FileSearch.Json.Tree
import FileSearch.Proofs.Json.Nesting
import FileSearch.Proofs.Json.Numeral
import FileSearch.Proofs.Json.Sequence

namespace FileSearch.Json

/-- A value is bounded when all its numerals are. -/
def Bounded (value : Json) : Prop :=
  ∀ numeral ∈ value.numerals, numeral.Bounded

namespace Reader

variable {Result : Type} {condition : Prop}

theorem takes_letters (word rest : List Char) :
    Takes condition (letters word) (word ++ rest) () rest := by
  induction word with
  | nil => exact .pure () rest
  | cons letter word inductionHypothesis =>
    refine (takes_peek _).bind ?_
    simp only [List.cons_append, List.head?_cons, if_true]
    exact (takes_skip_one letter _).bind inductionHypothesis

theorem Understands.mono {strong weak : Prop} {reader : Reader Result} {value : Json}
    {result : Result} (understands : Understands weak reader value result)
    (implies : strong → weak) : Understands strong reader value result :=
  fun gap text rest blank spells delimited =>
    (understands gap text rest blank spells delimited).mono implies

/-- A value that starts neither a list nor an object is left to the reader of such values. -/
theorem takes_valueWithin_scalar {gap tail rest : List Char} {head : Char} {value : Json}
    (depth : Nat) (blank : Gap gap) (noGap : isGap head = false) (noList : head ≠ '[')
    (noObject : head ≠ '{')
    (scalar : Takes condition (scalar? head) (head :: tail) (some value) rest) :
    Takes condition (valueWithin depth) (gap ++ head :: tail) value rest := by
  rw [valueWithin.eq_def]
  refine (takes_token blank (stops_cons noGap tail)).bind ?_
  split
  next found => cases found
  next found => exact absurd (Option.some.inj found) noList
  next found => exact absurd (Option.some.inj found) noObject
  next first _ _ found =>
    cases found
    exact scalar.bind (.pure value rest)

/-- The first character of a numeral decides for the reader of numerals. -/
theorem takes_scalar?_numeral {numeral : Numeral} {head : Char} {tail rest : List Char}
    (writes : NumeralText numeral (head :: tail)) (starts : head = '-' ∨ head.isDigit = true)
    (delimited : Delimited rest) :
    Takes numeral.Bounded (scalar? head) (head :: (tail ++ rest)) (some (.number numeral))
      rest := by
  have other : ∀ letter : Char, '-' ≠ letter → letter.isDigit = false → head ≠ letter := by
    obtain rfl | digit := starts
    · exact fun _ noSign _ => noSign
    · exact fun _ _ noDigit => ne_of_isDigit digit noDigit
  rw [scalar?, if_neg (other 'n' (by decide) rfl), if_neg (other 't' (by decide) rfl),
    if_neg (other 'f' (by decide) rfl), if_neg (other '"' (by decide) rfl), if_pos starts]
  exact (takes_boundedNumeral writes delimited).bind (.pure _ rest)

theorem understands_null (depth : Nat) : Understands condition (valueWithin depth) .null .null := by
  intro gap text rest blank spells delimited
  cases spells
  exact takes_valueWithin_scalar depth blank rfl (by decide) (by decide)
    ((takes_letters ['n', 'u', 'l', 'l'] rest).bind (.pure _ rest))

theorem understands_boolean (depth : Nat) (value : Bool) :
    Understands condition (valueWithin depth) (.boolean value) (.boolean value) := by
  intro gap text rest blank spells delimited
  cases spells with
  | yes =>
    exact takes_valueWithin_scalar depth blank rfl (by decide) (by decide)
      ((takes_letters ['t', 'r', 'u', 'e'] rest).bind (.pure _ rest))
  | no =>
    exact takes_valueWithin_scalar depth blank rfl (by decide) (by decide)
      ((takes_letters ['f', 'a', 'l', 's', 'e'] rest).bind (.pure _ rest))

theorem understands_number (depth : Nat) (numeral : Numeral) :
    Understands numeral.Bounded (valueWithin depth) (.number numeral) (.number numeral) := by
  intro gap text rest blank spells delimited
  cases spells with
  | number writes =>
    obtain ⟨head, tail, rfl, starts⟩ := writes.exists_head
    have taken := takes_scalar?_numeral writes starts delimited
    obtain rfl | digit := starts
    · exact takes_valueWithin_scalar depth blank rfl (by decide) (by decide) taken
    · exact takes_valueWithin_scalar depth blank (not_gap_of_isDigit digit)
        (ne_of_isDigit digit rfl) (ne_of_isDigit digit rfl) taken

theorem understands_string (depth : Nat) (value : String) :
    Understands condition (valueWithin depth) (.string value) (.string value) := by
  intro gap text rest blank spells delimited
  cases spells with
  | string writes =>
    have taken : Takes condition Reader.string (text ++ rest) value rest := takes_string rest writes
    obtain ⟨tail, rfl⟩ := writes.exists_head
    exact takes_valueWithin_scalar depth blank rfl (by decide) (by decide)
      (taken.bind (.pure _ rest))

theorem understands_array (depth : Nat) {values : List Json}
    (each : ∀ value ∈ values, Understands condition (valueWithin depth) value value) :
    Understands condition (valueWithin (depth + 1)) (.array values) (.array values) := by
  intro gap text rest blank spells delimited
  cases spells with
  | @array _ texts inner spelled sequence =>
    have opening : isGap '[' = false := rfl
    rw [valueWithin.eq_def, List.cons_append, List.append_assoc, List.singleton_append]
    refine (takes_token blank (stops_cons opening _)).bind ?_
    exact (takes_items rest spelled sequence (List.forall₂_same.mpr each)).bind (.pure _ rest)

theorem understands_object (depth : Nat) {members : List (String × Json)}
    (each : ∀ member ∈ members, Understands condition (valueWithin depth) member.2 member.2) :
    Understands condition (valueWithin (depth + 1)) (.object members) (.object members) := by
  intro gap text rest blank spells delimited
  have understood :
      List.Forall₂ (UnderstandsMember condition (valueWithin depth)) members members :=
    List.forall₂_same.mpr fun member found => ⟨rfl, each member found⟩
  cases spells with
  | @object _ texts inner spelled sequence =>
    have opening : isGap '{' = false := rfl
    rw [valueWithin.eq_def, List.cons_append, List.append_assoc, List.singleton_append]
    refine (takes_token blank (stops_cons opening _)).bind ?_
    exact (takes_members rest spelled sequence understood).bind (.pure _ rest)

/-- A value is understood where it is not nested too deep; then only its numerals can be
refused. -/
theorem understands_value (value : Json) : ∀ depth, value.depth ≤ depth →
    Understands value.Bounded (valueWithin depth) value value := by
  induction value using Json.induct with
  | step value inductionHypothesis =>
    intro depth shallow
    have inside : ∀ child ∈ value.children, ∀ inner, depth = inner + 1 →
        Understands value.Bounded (valueWithin inner) child child := by
      rintro child member inner rfl
      have lower : child.depth ≤ inner :=
        Nat.le_of_lt_succ ((depth_lt_of_mem_children member).trans_le shallow)
      exact (inductionHypothesis child member inner lower).mono fun bounded numeral found =>
        bounded numeral (mem_numerals_of_mem_children member found)
    cases value with
    | null => exact understands_null depth
    | boolean value => exact understands_boolean depth value
    | number numeral =>
      exact (understands_number depth numeral).mono fun bounded =>
        bounded numeral (List.mem_singleton_self numeral)
    | string text => exact understands_string depth text
    | array values =>
      cases depth with
      | zero => cases shallow
      | succ depth =>
        exact understands_array depth fun child member => inside child member depth rfl
    | object members =>
      cases depth with
      | zero => cases shallow
      | succ depth =>
        exact understands_object depth fun member found =>
          inside member.2 (List.mem_map_of_mem found) depth rfl

/-- A reader that understands a value reads every whole text of it. -/
theorem takes_writtenAs {reader : Reader Result} {value : Json} {result : Result}
    {text : List Char} (understands : Understands condition reader value result)
    (written : value.WrittenAs text) :
    ∃ behind, Gap behind ∧ Takes condition reader text result behind := by
  obtain ⟨before, own, behind, blankBefore, spells, blankBehind, rfl⟩ := written
  refine ⟨behind, blankBehind, understands before own behind blankBefore spells ?_⟩
  rw [← List.append_nil behind]
  exact delimited_gap blankBehind fun _ member => nomatch member

theorem readText_of_understands {reader : Reader Result} {value : Json} {result : Result}
    {text : String} (understands : Understands True reader value result)
    (written : value.WrittenAs text.toList) : reader.readText text = .ok result := by
  obtain ⟨behind, blank, takes⟩ := takes_writtenAs understands written
  have whole : Takes True (do let result ← reader; finish; return result) text.toList result [] :=
    takes.bind ((takes_finish blank).bind (.pure result []))
  obtain ⟨last, ran⟩ | ⟨never, _⟩ := whole Position.start
  · rw [readText, Cursor.ofText, ran]
    rfl
  · exact absurd trivial never

end Reader

end FileSearch.Json
