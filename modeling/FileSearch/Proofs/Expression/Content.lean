/-
This file shows that the clause of an expression has the atoms of the expression, in the same order.
-/

import FileSearch.Proofs.Clause.Shape
import FileSearch.Proofs.Clause.Traversal

namespace FileSearch

namespace Clause

/-- A missing clause has no atoms. -/
def content (clause : Option Clause) : List Atom :=
  clause.toList.flatMap atoms

theorem content_negation (inner : Option Clause) :
    content (inner.map .negated) = content inner := by
  cases inner <;> rfl

theorem content_ofText? (text : String) : content (ofText? text) = [] := by
  rw [ofText?]
  cases Text.isBlank text.toList <;> rfl

theorem content_join (connective : Connective) (parts : List Clause) :
    content (join connective parts) = parts.flatMap atoms := by
  match parts with
  | [] => rfl
  | [part] => rfl
  | part :: second :: rest =>
    have combined : atoms (.joined connective (part :: second :: rest)) =
        (part :: second :: rest).flatMap atoms := by
      rw [atoms, fold_joined, List.flatMap_def]
    exact (List.flatMap_singleton _ _).trans combined

theorem content_eq_getD (clause : Option Clause) : content clause = (clause.map atoms).getD [] := by
  cases clause with
  | none => rfl
  | some found => exact List.flatMap_singleton _ _

theorem content_chain (connective : Connective) (parts : List Clause) :
    content (chain connective parts) = parts.flatMap atoms := by
  have transparent (inner : Clause) : atoms (.grouped inner) = atoms inner := rfl
  rw [content_eq_getD, map_chain connective parts transparent, ← content_eq_getD, content_join]

/-- Every clause tests an atom where there are no raw texts. -/
theorem kept_atoms : Kept (fun clause => clause.atoms ≠ []) (fun clause => clause.atoms ≠ []) where
  alone := id
  joined := by
    intro connective first others tests empty
    rw [atoms, fold_joined, List.flatten_eq_nil_iff] at empty
    exact tests first List.mem_cons_self (empty _ List.mem_cons_self)
  grouped := id
  negated := id

theorem flatMap_entries (entries : List (Option Clause)) :
    (entries.filterMap id).flatMap atoms = entries.flatMap content := by
  rw [List.filterMap_eq_flatMap_toList, List.flatMap_assoc]
  rfl

end Clause

theorem FieldOperator.content_clause? (field : Field) (lists : FieldOperator) :
    Clause.content (lists.clause? field) = lists.atoms field := by
  have values (texts : Option (List String)) :
      (valueClauses field texts).flatMap Clause.atoms =
        (visible (texts.getD [])).map (.matching field) := by
    rw [valueClauses, List.flatMap_map, List.map_eq_flatMap]
    rfl
  rw [clause?, Clause.content_chain, Clause.flatMap_entries, atoms, List.map_append,
    List.map_append, List.append_assoc]
  simp only [List.flatMap_cons, List.flatMap_nil, Clause.content_chain, Clause.content_negation,
    Clause.content_join, values, List.append_nil]

theorem FieldValue.content_clause? (field : Field) (tested : FieldValue) :
    Clause.content (tested.clause? field) = tested.atoms field := by
  cases tested with
  | operator lists => exact lists.content_clause? field
  | plain text =>
    rw [clause?, atoms, visible_singleton]
    cases Text.isBlank text.toList <;> rfl

theorem DateRange.content_bound? (atom : String → Atom) (bound : Option String) :
    Clause.content (Emission.bound? atom bound) = (visible bound.toList).map atom := by
  cases bound with
  | none => rfl
  | some text =>
    rw [Emission.bound?, Option.toList_some, visible_singleton, Option.filter_some]
    cases Text.isBlank text.toList <;> rfl

theorem DateRange.content_range (range : DateRange) :
    Clause.content (Emission.range range) = range.atoms := by
  rw [Emission.range, Clause.content_chain, Clause.flatMap_entries, atoms]
  simp only [List.flatMap_cons, List.flatMap_nil, content_bound?, List.append_nil]

theorem Conditions.content_clauses (conditions : Conditions) :
    conditions.clauses.flatMap Clause.atoms = conditions.atoms := by
  have flags : conditions.flagClauses.flatMap Clause.content = conditions.flagAtoms := by
    rw [flagClauses, List.flatMap_map, flagAtoms]
    refine List.flatMap_congr fun flag _ => ?_
    cases conditions.flags.get flag <;> rfl
  have fields : conditions.fieldClauses.flatMap Clause.content = conditions.fieldAtoms := by
    rw [fieldClauses, List.flatMap_map, fieldAtoms]
    refine List.flatMap_congr fun field _ => ?_
    cases conditions.fields.get field with
    | none => rfl
    | some tested =>
      rw [Option.bind_some, FieldValue.content_clause?, Option.toList_some,
        List.flatMap_singleton]
  have range : Clause.content (conditions.modified.bind Emission.range) =
      conditions.rangeAtoms := by
    rw [rangeAtoms]
    cases conditions.modified with
    | none => rfl
    | some range =>
      rw [Option.bind_some, DateRange.content_range, Option.toList_some, List.flatMap_singleton]
  have raw : Clause.content (conditions.rawQuery.bind Clause.ofText?) = [] := by
    cases conditions.rawQuery with
    | none => rfl
    | some text => exact Clause.content_ofText? text
  rw [clauses, Clause.flatMap_entries, atoms]
  simp only [List.flatMap_append, List.flatMap_cons, List.flatMap_nil, flags, fields, range, raw,
    List.append_nil]

theorem Emission.content_assemble (atRoot : Bool) (combined others : List Clause) :
    Clause.content (assemble atRoot combined others) =
      combined.flatMap Clause.atoms ++ others.flatMap Clause.atoms := by
  rw [← List.flatMap_append]
  unfold assemble
  split
  · next only single =>
    rw [single]
    rfl
  · rw [Clause.content_chain, List.flatMap_append, List.flatMap_append, List.flatMap_map]
    rfl

namespace Node

theorem content_groupClause? (connective : Connective) (group : Option (List (Option Clause))) :
    Clause.content (groupClause? connective group) = (group.getD []).flatMap Clause.content := by
  rw [groupClause?, Clause.content_join, Clause.flatMap_entries]

theorem content_clause? (atRoot : Bool) (node : Node (Option Clause)) :
    Clause.content (node.clause? atRoot) =
      node.children.flatMap Clause.content ++ node.conditions.atoms := by
  have negation : Clause.content node.negation.join =
      node.negation.toList.flatMap Clause.content := by
    cases node.negation with
    | none => rfl
    | some child => exact (List.append_nil _).symm
  rw [clause?, Emission.content_assemble, combined, others, Clause.flatMap_entries,
    Clause.flatMap_entries, children]
  simp only [List.flatMap_cons, List.flatMap_nil, List.flatMap_append, List.append_nil,
    List.append_assoc, content_groupClause?, Clause.content_negation, Clause.content_chain,
    Conditions.content_clauses, negation]

end Node

namespace Expression

theorem content_clause? (expression : Expression) :
    Clause.content expression.clause? = expression.atoms := by
  induction expression using induct with
  | atRaw text => exact Clause.content_ofText? text
  | atNode parts inductionHypothesis =>
    rw [clause?_node, Node.content_clause?, atoms_node, Node.children_map, List.flatMap_map,
      List.flatMap_congr inductionHypothesis]
    rfl

theorem content_rootClause? (expression : Expression) :
    Clause.content expression.rootClause? = expression.atoms := by
  cases expression with
  | raw text => exact Clause.content_ofText? text
  | node parts =>
    rw [rootClause?, Node.content_clause?, ← content_clause?, clause?_node, Node.content_clause?]

/-- An expression without raw texts has a clause exactly when it tests an atom. -/
theorem rootClause?_eq_none_iff {expression : Expression} (noRaw : expression.rawTexts = []) :
    expression.rootClause? = none ↔ expression.atoms = [] := by
  have keeps : Keeps (fun clause => clause.atoms ≠ []) expression := by
    refine ⟨fun atom _ => List.cons_ne_nil atom [], fun text member => ?_⟩
    rw [noRaw] at member
    cases member
  rw [← content_rootClause?]
  cases found : expression.rootClause? with
  | none => exact iff_of_true rfl rfl
  | some clause =>
    have tests := keeps.rootClause Clause.kept_atoms clause found
    refine iff_of_false (Option.some_ne_none clause) fun empty => tests ?_
    rwa [Clause.content, Option.toList_some, List.flatMap_singleton] at empty

end Expression

end FileSearch
