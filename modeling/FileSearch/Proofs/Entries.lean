/-
This file collects facts on lists of entries that can be missing.
-/

import Mathlib.Data.List.Basic
import Mathlib.Data.List.Forall2

namespace FileSearch

variable {Entry Result : Type}

/-- A search ends with the first entry or goes on behind it. -/
theorem findSome?_cons_eq_or (search : Entry → Option Result) (entry : Entry)
    (entries : List Entry) :
    (entry :: entries).findSome? search = (search entry).or (entries.findSome? search) := by
  rw [List.findSome?_cons]
  cases search entry <;> rfl

theorem findSome?_filterMap {Item : Type} (search : Entry → Option Result)
    (select : Item → Option Entry) (items : List Item) :
    (items.filterMap select).findSome? search =
      items.findSome? fun item => (select item).bind search := by
  rw [← List.head?_filterMap, ← List.head?_filterMap, List.filterMap_filterMap]

/-- A search in lists behind one another is a search in each list. -/
theorem findSome?_flatMap {Item : Type} (search : Entry → Option Result)
    (entries : Item → List Entry) (items : List Item) :
    (items.flatMap entries).findSome? search =
      items.findSome? fun item => (entries item).findSome? search := by
  simp only [← List.head?_filterMap, List.filterMap_flatMap, List.head?_flatMap]

/-- An entry that is missing is left out. -/
theorem filterMap_id_cons (entry : Option Entry) (entries : List (Option Entry)) :
    (entry :: entries).filterMap id = entry.toList ++ entries.filterMap id := by
  cases entry <;> rfl

/-- A property of all entries that are there belongs to the list without the missing ones. -/
theorem forall_mem_filterMap_id {property : Entry → Prop} {entries : List (Option Entry)}
    (holds : ∀ possible ∈ entries, ∀ entry ∈ possible, property entry) :
    ∀ entry ∈ entries.filterMap id, property entry := by
  intro entry member
  obtain ⟨possible, found, present⟩ := List.mem_filterMap.mp member
  exact holds possible found entry present

/-- Lists whose entries are related one by one stay so without the missing ones. -/
theorem forall₂_filterMap_id {related : Entry → Result → Prop} {entries : List (Option Entry)}
    {results : List (Option Result)}
    (each : List.Forall₂ (Option.Rel related) entries results) :
    List.Forall₂ related (entries.filterMap id) (results.filterMap id) := by
  induction each with
  | nil => exact .nil
  | cons first _ inductionHypothesis =>
    cases first with
    | none => exact inductionHypothesis
    | some here => exact .cons here inductionHypothesis

/-- A missing list has no entries. -/
theorem forall₂_getD {related : Entry → Result → Prop} {entries : Option (List Entry)}
    {results : Option (List Result)}
    (each : Option.Rel (List.Forall₂ related) entries results) :
    List.Forall₂ related (entries.getD []) (results.getD []) := by
  cases each with
  | none => exact .nil
  | some each => exact each

theorem forall₂_toList {related : Entry → Result → Prop} {entry : Option Entry}
    {result : Option Result} (here : Option.Rel related entry result) :
    List.Forall₂ related entry.toList result.toList := by
  cases here with
  | none => exact .nil
  | some here => exact .cons here .nil

/-- The entries that are selected come from the items in their order. -/
theorem map_filterMap_sublist {Item : Type} {select : Item → Option Entry}
    {read : Entry → Result} {expected : Item → Result}
    (same : ∀ item entry, select item = some entry → read entry = expected item)
    (items : List Item) :
    List.Sublist ((items.filterMap select).map read) (items.map expected) := by
  induction items with
  | nil => exact .slnil
  | cons item items inductionHypothesis =>
    rw [List.filterMap_cons]
    cases found : select item with
    | none => exact inductionHypothesis.cons _
    | some entry =>
      rw [List.map_cons, List.map_cons, same item entry found]
      exact inductionHypothesis.cons_cons _

end FileSearch
