/-
This file gives access to the entries of an expression node by their keys. Reading a member sets one
entry and leaves the others as they are.
-/

import FileSearch.Expression.OfJson

namespace FileSearch

open Json

namespace Expression

/-- This is the type of the entry of a node under a key. -/
def Key.Entry : Key → Type
  | .conjuncts => Option (List Expression)
  | .disjuncts => Option (List Expression)
  | .negation => Option Expression
  | .field _ => Option FieldValue
  | .flag _ => Option Bool
  | .modified => Option DateRange
  | .rawQuery => Option String

end Expression

namespace Node

open Expression (Key)

def entry (node : Node Expression) : (key : Key) → key.Entry
  | .conjuncts => node.conjuncts
  | .disjuncts => node.disjuncts
  | .negation => node.negation
  | .field field => node.conditions.fields.get field
  | .flag flag => node.conditions.flags.get flag
  | .modified => node.conditions.modified
  | .rawQuery => node.conditions.rawQuery

def setEntry (node : Node Expression) : (key : Key) → key.Entry → Node Expression
  | .conjuncts, entry => { node with conjuncts := entry }
  | .disjuncts, entry => { node with disjuncts := entry }
  | .negation, entry => { node with negation := entry }
  | .field field, entry =>
    { node with conditions :=
        { node.conditions with fields := node.conditions.fields.set field entry } }
  | .flag flag, entry =>
    { node with conditions :=
        { node.conditions with flags := node.conditions.flags.set flag entry } }
  | .modified, entry => { node with conditions := { node.conditions with modified := entry } }
  | .rawQuery, entry => { node with conditions := { node.conditions with rawQuery := entry } }

theorem entry_setEntry_self (node : Node Expression) (key : Key) (entry : key.Entry) :
    (node.setEntry key entry).entry key = entry := by
  cases key with
  | field field => exact (FieldMap.get_set _ field field _).trans (if_pos rfl)
  | flag flag => exact (FlagMap.get_set _ flag flag _).trans (if_pos rfl)
  | conjuncts => rfl
  | disjuncts => rfl
  | negation => rfl
  | modified => rfl
  | rawQuery => rfl

theorem entry_setEntry_of_ne (node : Node Expression) {written read : Key}
    (entry : written.Entry) (different : written ≠ read) :
    (node.setEntry written entry).entry read = node.entry read := by
  cases written with
  | field written =>
    cases read with
    | field read =>
      exact (FieldMap.get_set _ written read _).trans
        (if_neg fun same => different (congrArg Key.field same))
    | _ => rfl
  | flag written =>
    cases read with
    | flag read =>
      exact (FlagMap.get_set _ written read _).trans
        (if_neg fun same => different (congrArg Key.flag same))
    | _ => rfl
  | conjuncts =>
    cases read with
    | conjuncts => exact absurd rfl different
    | _ => rfl
  | disjuncts =>
    cases read with
    | disjuncts => exact absurd rfl different
    | _ => rfl
  | negation =>
    cases read with
    | negation => exact absurd rfl different
    | _ => rfl
  | modified =>
    cases read with
    | modified => exact absurd rfl different
    | _ => rfl
  | rawQuery =>
    cases read with
    | rawQuery => exact absurd rfl different
    | _ => rfl

/-- The entries determine the node. -/
theorem ext_entry {first second : Node Expression}
    (same : ∀ key, first.entry key = second.entry key) : first = second := by
  obtain ⟨conjuncts, disjuncts, negation, fields, flags, modified, rawQuery⟩ := first
  obtain ⟨otherConjuncts, otherDisjuncts, otherNegation, otherConditions⟩ := second
  have sameFields := FieldMap.ext_get fun field => same (.field field)
  have sameFlags := FlagMap.ext_get fun flag => same (.flag flag)
  have conditions : ⟨fields, flags, modified, rawQuery⟩ = otherConditions :=
    Conditions.mk.injEq .. ▸ ⟨sameFields, sameFlags, same .modified, same .rawQuery⟩
  rw [Node.mk.injEq]
  exact ⟨same .conjuncts, same .disjuncts, same .negation, conditions⟩

/-- An entry that is set to itself changes nothing. -/
theorem setEntry_entry (node : Node Expression) (key : Key) :
    node.setEntry key (node.entry key) = node := by
  refine ext_entry fun other => ?_
  by_cases same : key = other
  · rw [← same, entry_setEntry_self]
  · rw [entry_setEntry_of_ne _ _ same]

/-- Of two entries that are set under one key, the last one stays. -/
theorem setEntry_setEntry (node : Node Expression) (key : Key) (first second : key.Entry) :
    (node.setEntry key first).setEntry key second = node.setEntry key second := by
  refine ext_entry fun other => ?_
  by_cases same : key = other
  · rw [← same, entry_setEntry_self, entry_setEntry_self]
  · rw [entry_setEntry_of_ne _ _ same, entry_setEntry_of_ne _ _ same, entry_setEntry_of_ne _ _ same]

end Node

namespace Expression

/-- This function reads the entry under a key. -/
def entryOfJson? (value : Json) (readings : Readings) : (key : Key) → Option key.Entry
  | .conjuncts => value.nullable? fun _ => readings.group ()
  | .disjuncts => value.nullable? fun _ => readings.group ()
  | .negation => value.nullable? fun _ => readings.single ()
  | .field _ => value.nullable? FieldValue.ofJson?
  | .flag _ => value.nullable? Json.boolean?
  | .modified => value.nullable? DateRange.ofJson?
  | .rawQuery => value.nullable? Json.string?

/-- A member sets its entry and no other one. -/
theorem place?_eq (node : Node Expression) (key : Key) (value : Json) (readings : Readings) :
    place? node key value readings =
      (entryOfJson? value readings key).map (node.setEntry key) := by
  cases key with
  | conjuncts =>
    cases value with
    | null => rfl
    | _ =>
      simp only [place?, entryOfJson?, nullable?]
      cases readings.group () <;> rfl
  | disjuncts =>
    cases value with
    | null => rfl
    | _ =>
      simp only [place?, entryOfJson?, nullable?]
      cases readings.group () <;> rfl
  | negation =>
    cases value with
    | null => rfl
    | _ =>
      simp only [place?, entryOfJson?, nullable?]
      cases readings.single () <;> rfl
  | field field =>
    simp only [place?, Conditions.place?, entryOfJson?]
    cases value.nullable? FieldValue.ofJson? <;> rfl
  | flag flag =>
    simp only [place?, Conditions.place?, entryOfJson?]
    cases value.nullable? Json.boolean? <;> rfl
  | modified =>
    simp only [place?, Conditions.place?, entryOfJson?]
    cases value.nullable? DateRange.ofJson? <;> rfl
  | rawQuery =>
    simp only [place?, Conditions.place?, entryOfJson?]
    cases value.nullable? Json.string? <;> rfl

end Expression

end FileSearch
