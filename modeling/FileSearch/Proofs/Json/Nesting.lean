/-
This file gives the recursion and the induction over JSON values. A list or an object holds other
values; a step sees the results of the values directly inside.
-/

import FileSearch.Json.Value
import Mathlib.Data.List.MinMax
import Mathlib.Order.Nat

namespace FileSearch.Json

/-- These are the values directly inside a list or an object. -/
def children : Json → List Json
  | .array items => items
  | .object members => members.map Prod.snd
  | .null => []
  | .boolean _ => []
  | .number _ => []
  | .string _ => []

section

variable {Result : Type} (step : Json → List Result → Result)

mutual

/-- This function takes a step at each value with the results of the values directly inside. -/
def fold : Json → Result
  | .array items => step (.array items) (foldItems items)
  | .object members => step (.object members) (foldMembers members)
  | .null => step .null []
  | .boolean value => step (.boolean value) []
  | .number numeral => step (.number numeral) []
  | .string text => step (.string text) []

def foldItems : List Json → List Result
  | [] => []
  | item :: items => fold item :: foldItems items

def foldMembers : List (String × Json) → List Result
  | [] => []
  | (_, value) :: members => fold value :: foldMembers members

end

theorem foldItems_eq_map (items : List Json) : foldItems step items = items.map (fold step) := by
  induction items with
  | nil => rfl
  | cons item items inductionHypothesis => rw [foldItems, inductionHypothesis, List.map_cons]

theorem foldMembers_eq_map (members : List (String × Json)) :
    foldMembers step members = members.map fun member => fold step member.2 := by
  induction members with
  | nil => rfl
  | cons member members inductionHypothesis =>
    rw [foldMembers, inductionHypothesis, List.map_cons]

theorem fold_eq_step (value : Json) :
    fold step value = step value (value.children.map (fold step)) := by
  cases value with
  | array items => rw [fold, foldItems_eq_map, children]
  | object members =>
    rw [fold, foldMembers_eq_map, children, List.map_map]
    rfl
  | null => rfl
  | boolean value => rfl
  | number numeral => rfl
  | string text => rfl

end

section

variable {motive : Json → Prop}
  (step : ∀ value, (∀ child ∈ value.children, motive child) → motive value)

include step

set_option linter.unusedSectionVars false

mutual

/-- A property holds of all values when each value has it as soon as those inside it do. -/
@[elab_as_elim]
theorem induct : (value : Json) → motive value
  | .array items => step (.array items) (inductItems items)
  | .object members => step (.object members) (inductMembers members)
  | .null => step .null (List.forall_mem_nil _)
  | .boolean value => step (.boolean value) (List.forall_mem_nil _)
  | .number numeral => step (.number numeral) (List.forall_mem_nil _)
  | .string text => step (.string text) (List.forall_mem_nil _)

theorem inductItems : (items : List Json) → ∀ item ∈ items, motive item
  | [] => List.forall_mem_nil _
  | item :: items => List.forall_mem_cons.mpr ⟨induct item, inductItems items⟩

theorem inductMembers : (members : List (String × Json)) →
    ∀ value ∈ members.map Prod.snd, motive value
  | [] => List.forall_mem_nil _
  | (_, value) :: members => List.forall_mem_cons.mpr ⟨induct value, inductMembers members⟩

end

end

/-- A list or an object is one level deeper than the deepest value inside it. -/
def depth : Json → Nat :=
  fold fun value inner =>
    match value with
    | .array _ => inner.foldr max 0 + 1
    | .object _ => inner.foldr max 0 + 1
    | _ => 0

/-- These are the numerals in a value, in order. -/
def numerals : Json → List Numeral :=
  fold fun value inner =>
    match value with
    | .number numeral => [numeral]
    | _ => inner.flatten

/-- The values inside a list or an object decide about its depth. -/
theorem depth_eq_or (value : Json) :
    value.depth = (value.children.map depth).foldr max 0 + 1 ∨
      value.children = [] ∧ value.depth = 0 := by
  rw [depth, fold_eq_step]
  cases value with
  | array items => exact .inl rfl
  | object members => exact .inl rfl
  | null => exact .inr ⟨rfl, rfl⟩
  | boolean truth => exact .inr ⟨rfl, rfl⟩
  | number numeral => exact .inr ⟨rfl, rfl⟩
  | string text => exact .inr ⟨rfl, rfl⟩

theorem depth_lt_of_mem_children {value child : Json} (member : child ∈ value.children) :
    child.depth < value.depth := by
  have bounded : child.depth ≤ (value.children.map depth).foldr max 0 :=
    List.le_max_of_le' 0 (List.mem_map_of_mem member) le_rfl
  obtain whole | ⟨none, _⟩ := depth_eq_or value
  · rw [whole]
    exact Nat.lt_succ_of_le bounded
  · rw [none] at member
    cases member

theorem depth_le_succ {value : Json} {bound : Nat}
    (inside : ∀ child ∈ value.children, child.depth ≤ bound) : value.depth ≤ bound + 1 := by
  obtain whole | ⟨_, flat⟩ := depth_eq_or value
  · rw [whole]
    exact Nat.succ_le_succ (List.max_le_of_forall_le _ _ (List.forall_mem_map.mpr inside))
  · rw [flat]
    exact Nat.zero_le _

theorem numerals_array (items : List Json) :
    numerals (.array items) = items.flatMap numerals := by
  rw [numerals, fold_eq_step]
  rfl

theorem numerals_object (members : List (String × Json)) :
    numerals (.object members) = members.flatMap fun member => numerals member.2 := by
  have inner : numerals (.object members) = (members.map Prod.snd).flatMap numerals := by
    rw [numerals, fold_eq_step]
    rfl
  rw [inner, List.flatMap_map]

theorem mem_numerals_of_mem_children {value child : Json} (member : child ∈ value.children)
    {numeral : Numeral} (found : numeral ∈ child.numerals) : numeral ∈ value.numerals := by
  cases value with
  | array items =>
    rw [numerals_array]
    exact List.mem_flatMap.mpr ⟨child, member, found⟩
  | object members =>
    obtain ⟨entry, inside, rfl⟩ := List.mem_map.mp member
    rw [numerals_object]
    exact List.mem_flatMap.mpr ⟨entry, inside, found⟩
  | null => cases member
  | boolean value => cases member
  | number numeral => cases member
  | string text => cases member

end FileSearch.Json
