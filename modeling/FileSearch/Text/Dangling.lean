/-
This file removes keywords that a query begins or ends with, where nothing is left to join.
-/

import FileSearch.Connective

namespace FileSearch.Text

/-- A keyword and a space at the start join nothing. -/
def dropLeading? (connective : Connective) (text : List Char) : Option (List Char) :=
  let token := connective.keyword ++ [' ']
  if token.isPrefixOf text then some (text.drop token.length) else none

/-- A space and a keyword at the end join nothing. -/
def dropTrailing? (connective : Connective) (text : List Char) : Option (List Char) :=
  let token := ' ' :: connective.keyword
  if token.isSuffixOf text then some (text.take (text.length - token.length)) else none

/-- This function removes one dangling keyword; the start is tried before the end. -/
def dropDangling? (text : List Char) : Option (List Char) :=
  (Connective.all.findSome? (dropLeading? · text)).or
    (Connective.all.findSome? (dropTrailing? · text))

variable {connective : Connective} {text rest : List Char}

theorem dropLeading?_eq_some_iff :
    dropLeading? connective text = some rest ↔ text = connective.keyword ++ ' ' :: rest := by
  rw [List.append_cons, dropLeading?, Option.ite_none_right_eq_some, List.isPrefixOf_iff_prefix,
    Option.some.injEq]
  constructor
  · rintro ⟨⟨behind, rfl⟩, rfl⟩
    rw [List.drop_left]
  · rintro rfl
    exact ⟨List.prefix_append _ _, List.drop_left⟩

theorem dropTrailing?_eq_some_iff :
    dropTrailing? connective text = some rest ↔ text = rest ++ ' ' :: connective.keyword := by
  rw [dropTrailing?, Option.ite_none_right_eq_some, List.isSuffixOf_iff_suffix, Option.some.injEq]
  constructor
  · rintro ⟨⟨front, rfl⟩, rfl⟩
    rw [List.length_append, Nat.add_sub_cancel, List.take_left]
  · rintro rfl
    refine ⟨List.suffix_append _ _, ?_⟩
    rw [List.length_append, Nat.add_sub_cancel, List.take_left]

theorem length_of_dropDangling? (dropped : dropDangling? text = some rest) :
    rest.length < text.length := by
  rcases Option.or_eq_some_iff.mp dropped with leading | ⟨_, trailing⟩
  · obtain ⟨connective, _, found⟩ := List.exists_of_findSome?_eq_some leading
    rw [dropLeading?_eq_some_iff.mp found, List.length_append, List.length_cons]
    omega
  · obtain ⟨connective, _, found⟩ := List.exists_of_findSome?_eq_some trailing
    rw [dropTrailing?_eq_some_iff.mp found, List.length_append, List.length_cons]
    omega

/-- This function removes dangling keywords until none is left; no other character changes. -/
def stripDangling (text : List Char) : List Char :=
  match _ : dropDangling? text with
  | none => text
  | some rest => stripDangling rest
termination_by text.length
decreasing_by exact length_of_dropDangling? (by assumption)

end FileSearch.Text
