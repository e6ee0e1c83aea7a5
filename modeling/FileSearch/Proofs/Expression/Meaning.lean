/-
This file says which files satisfy an expression, and shows that they are those which satisfy its
clause.
-/

import FileSearch.Proofs.Clause.Traversal
import FileSearch.Proofs.Entries
import FileSearch.Proofs.Expression.Traversal
import Mathlib.Data.List.ReduceOption

namespace FileSearch

variable (truth : Atom → Bool)

namespace FieldOperator

/-- These are the verdicts of the values of a list. -/
def valueVerdicts (field : Field) (texts : Option (List String)) : List Bool :=
  (visible (texts.getD [])).map fun text => truth (.matching field text)

/-- One value of the first list is needed, all of the second one, and none of the third one. -/
def verdict? (field : Field) (lists : FieldOperator) : Option Bool :=
  Connective.conjunction.verdict?
    ([Connective.disjunction.verdict? (valueVerdicts truth field lists.anyOf),
      Connective.conjunction.verdict? (valueVerdicts truth field lists.allOf),
      (Connective.disjunction.verdict? (valueVerdicts truth field lists.noneOf)).map
        not].filterMap id)

end FieldOperator

namespace FieldValue

def verdict? (field : Field) : FieldValue → Option Bool
  | .plain text =>
    if Text.isBlank text.toList then none else some (truth (.matching field text))
  | .operator lists => lists.verdict? truth field

end FieldValue

namespace DateRange

/-- Both bounds are needed. -/
def verdict? (range : DateRange) : Option Bool :=
  Connective.conjunction.verdict?
    ((visible range.notBefore.toList).map (fun bound => truth (.modifiedNotBefore bound)) ++
      (visible range.before.toList).map fun bound => truth (.modifiedBefore bound))

end DateRange

namespace Expression

/-- A raw text is taken for the query that it is read as; a blank one asks for nothing. -/
def rawVerdict? (text : String) : Option Bool :=
  if Text.isBlank text.toList then none
  else some ((Query.parse? text.toList).any (·.holds truth))

end Expression

namespace Conditions

/-- Each condition that is set has a verdict, unless its texts are blank. -/
def verdicts (conditions : Conditions) : List Bool :=
  Flag.all.filterMap (fun flag =>
      (conditions.flags.get flag).map fun value => truth (.marked flag value)) ++
    (conditions.modified.bind (DateRange.verdict? truth)).toList ++
    Field.all.filterMap (fun field =>
      (conditions.fields.get field).bind (FieldValue.verdict? truth field)) ++
    (conditions.rawQuery.bind (Expression.rawVerdict? truth)).toList

end Conditions

namespace Node

/-- The children that ask for nothing are left out of a group. -/
def groupVerdict? (connective : Connective) (group : Option (List (Option Bool))) : Option Bool :=
  connective.verdict? ((group.getD []).filterMap id)

/-- These are the verdicts of the parts of a node: its conjuncts, its disjuncts, the opposite of its
negation, and its conditions. -/
def partVerdicts (node : Node (Option Bool)) : List (Option Bool) :=
  [groupVerdict? .conjunction node.conjuncts, groupVerdict? .disjunction node.disjuncts,
    node.negation.join.map not,
    Connective.conjunction.verdict? (node.conditions.verdicts truth)]

/-- All parts of a node are needed that ask for something. -/
def verdict? (node : Node (Option Bool)) : Option Bool :=
  Connective.conjunction.verdict? ((node.partVerdicts truth).filterMap id)

end Node

namespace Expression

/-- This tells whether a file satisfies an expression, by the atoms that are true of it. An
expression that asks for nothing has no verdict. -/
def verdict? : Expression → Option Bool :=
  fold (rawVerdict? truth) (Node.verdict? truth)

theorem verdict?_node (parts : Node Expression) :
    verdict? truth (.node parts) = (parts.map (verdict? truth)).verdict? truth := by
  rw [verdict?, fold_node]

end Expression

namespace Clause

theorem holds_negation (inner : Option Clause) :
    (inner.map .negated).map (holds truth) = (inner.map (holds truth)).map not := by
  cases inner <;> rfl

theorem holds_ofText? (text : String) :
    (ofText? text).map (holds truth) = Expression.rawVerdict? truth text := by
  rw [ofText?, Expression.rawVerdict?]
  cases Text.isBlank text.toList <;> rfl

end Clause

theorem FieldOperator.holds_clause? (field : Field) (lists : FieldOperator) :
    (lists.clause? field).map (Clause.holds truth) = lists.verdict? truth field := by
  have values (texts : Option (List String)) :
      (valueClauses field texts).map (Clause.holds truth) = valueVerdicts truth field texts :=
    List.map_map
  rw [clause?, Clause.holds_chain, ← List.reduceOption, ← List.reduceOption_map]
  simp only [List.map_cons, List.map_nil, Clause.holds_chain, Clause.holds_negation,
    Clause.holds_join, values]
  rfl

theorem FieldValue.holds_clause? (field : Field) (tested : FieldValue) :
    (tested.clause? field).map (Clause.holds truth) = tested.verdict? truth field := by
  cases tested with
  | operator lists => exact lists.holds_clause? truth field
  | plain text =>
    rw [clause?, verdict?]
    cases Text.isBlank text.toList <;> rfl

theorem DateRange.holds_bound? (atom : String → Atom) (bound : Option String) :
    (Emission.bound? atom bound).toList.map (Clause.holds truth) =
      (visible bound.toList).map fun text => truth (atom text) := by
  cases bound with
  | none => rfl
  | some text =>
    rw [Emission.bound?, Option.toList_some, visible_singleton, Option.filter_some]
    cases Text.isBlank text.toList <;> rfl

theorem DateRange.holds_range (range : DateRange) :
    (Emission.range range).map (Clause.holds truth) = range.verdict? truth := by
  rw [Emission.range, Clause.holds_chain, verdict?, filterMap_id_cons, filterMap_id_cons,
    List.filterMap_nil, List.append_nil, List.map_append, holds_bound?, holds_bound?]

theorem Conditions.holds_clauses (conditions : Conditions) :
    conditions.clauses.map (Clause.holds truth) = conditions.verdicts truth := by
  have flags : (conditions.flagClauses.filterMap id).map (Clause.holds truth) =
      Flag.all.filterMap fun flag =>
        (conditions.flags.get flag).map fun value => truth (.marked flag value) := by
    rw [flagClauses, List.filterMap_map, List.map_filterMap]
    simp only [Function.comp_def, id, Option.map_map]
    rfl
  have fields : (conditions.fieldClauses.filterMap id).map (Clause.holds truth) =
      Field.all.filterMap fun field =>
        (conditions.fields.get field).bind (FieldValue.verdict? truth field) := by
    rw [fieldClauses, List.filterMap_map, List.map_filterMap]
    simp only [Function.comp_def, id, Option.map_bind, FieldValue.holds_clause?]
  have range : (conditions.modified.bind Emission.range).map (Clause.holds truth) =
      conditions.modified.bind (DateRange.verdict? truth) := by
    simp only [Option.map_bind, Function.comp_def, DateRange.holds_range]
  have raw : (conditions.rawQuery.bind Clause.ofText?).map (Clause.holds truth) =
      conditions.rawQuery.bind (Expression.rawVerdict? truth) := by
    simp only [Option.map_bind, Function.comp_def, Clause.holds_ofText?]
  rw [clauses, verdicts, List.filterMap_append, List.filterMap_append, List.filterMap_append,
    filterMap_id_cons, filterMap_id_cons, List.filterMap_nil, List.append_nil, List.append_nil]
  simp only [List.map_append, ← Option.toList_map, flags, fields, range, raw]

theorem Emission.holds_assemble (atRoot : Bool) (combined others : List Clause) :
    (assemble atRoot combined others).map (Clause.holds truth) =
      Connective.conjunction.verdict? ((combined ++ others).map (Clause.holds truth)) := by
  have chained : (Clause.chain .conjunction (combined.map .grouped ++ others)).map
      (Clause.holds truth) =
        Connective.conjunction.verdict? ((combined ++ others).map (Clause.holds truth)) := by
    rw [Clause.holds_chain, List.map_append, List.map_append, List.map_map]
    rfl
  unfold assemble
  split
  · next only single =>
    rw [single]
    exact Clause.holds_join .conjunction [only] truth
  · exact chained

namespace Node

theorem holds_groupClause? (connective : Connective) (group : Option (List (Option Clause))) :
    (groupClause? connective group).map (Clause.holds truth) =
      groupVerdict? connective (group.map (List.map (Option.map (Clause.holds truth)))) := by
  rw [groupClause?, groupVerdict?, Clause.holds_join, ← List.reduceOption,
    ← List.reduceOption_map]
  cases group <;> rfl

theorem holds_clause? (atRoot : Bool) (node : Node (Option Clause)) :
    (node.clause? atRoot).map (Clause.holds truth) =
      (node.map (Option.map (Clause.holds truth))).verdict? truth := by
  rw [clause?, Emission.holds_assemble, combined, others, ← List.filterMap_append,
    ← List.reduceOption, ← List.reduceOption_map]
  simp only [List.cons_append, List.nil_append, List.map_cons, List.map_nil, holds_groupClause?,
    Clause.holds_chain, Clause.holds_negation, Conditions.holds_clauses]
  cases node with
  | mk conjuncts disjuncts negation conditions =>
    rcases negation with _ | _ | inner <;> rfl

end Node

namespace Expression

theorem holds_clause? (expression : Expression) :
    expression.clause?.map (Clause.holds truth) = expression.verdict? truth := by
  induction expression using induct with
  | atRaw text => exact Clause.holds_ofText? truth text
  | atNode parts inductionHypothesis =>
    rw [clause?_node, Node.holds_clause?, verdict?_node, Node.map_map,
      Node.map_congr inductionHypothesis]

/-- An expression is satisfied by the same files alone as inside another one. -/
theorem holds_rootClause? (expression : Expression) :
    expression.rootClause?.map (Clause.holds truth) = expression.verdict? truth := by
  cases expression with
  | raw text => exact Clause.holds_ofText? truth text
  | node parts =>
    rw [rootClause?, Node.holds_clause?, ← holds_clause?, clause?_node, Node.holds_clause?]

end Expression

end FileSearch
