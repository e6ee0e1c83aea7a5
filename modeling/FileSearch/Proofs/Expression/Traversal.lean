/-
This file reads expressions without recording anything: the atoms that they test, their raw texts,
their clause and their first violation.
-/

import FileSearch.Emission
import FileSearch.Proofs.Expression.Fold

namespace FileSearch

/-- Blank values ask for nothing. -/
def visible (texts : List String) : List String :=
  texts.filter fun text => !Text.isBlank text.toList

theorem visible_singleton (text : String) :
    visible [text] = if Text.isBlank text.toList then [] else [text] := by
  rw [visible, List.filter_cons]
  cases Text.isBlank text.toList <;> rfl

namespace FieldOperator

/-- The three lists are read in order. -/
def atoms (field : Field) (lists : FieldOperator) : List Atom :=
  (visible (lists.anyOf.getD []) ++ visible (lists.allOf.getD []) ++
    visible (lists.noneOf.getD [])).map (.matching field)

/-- These are the clauses of the values of a list. -/
def valueClauses (field : Field) (texts : Option (List String)) : List Clause :=
  (visible (texts.getD [])).map fun text => .atom (.matching field text)

def clause? (field : Field) (lists : FieldOperator) : Option Clause :=
  Clause.chain .conjunction
    ([Clause.chain .disjunction (valueClauses field lists.anyOf),
      Clause.chain .conjunction (valueClauses field lists.allOf),
      (Clause.join .disjunction (valueClauses field lists.noneOf)).map .negated].filterMap id)

end FieldOperator

namespace FieldValue

def atoms (field : Field) : FieldValue → List Atom
  | .plain text => (visible [text]).map (.matching field)
  | .operator lists => lists.atoms field

def clause? (field : Field) : FieldValue → Option Clause
  | .plain text =>
    if Text.isBlank text.toList then none else some (.atom (.matching field text))
  | .operator lists => lists.clause? field

/-- Only an operator without lists is refused. -/
def violation? (field : Field) : FieldValue → Option Violation
  | .plain _ => none
  | .operator lists => if lists.isKeyless then some ⟨field⟩ else none

end FieldValue

namespace DateRange

def atoms (range : DateRange) : List Atom :=
  (visible range.notBefore.toList).map .modifiedNotBefore ++
    (visible range.before.toList).map .modifiedBefore

end DateRange

namespace Conditions

def flagAtoms (conditions : Conditions) : List Atom :=
  Flag.all.flatMap fun flag => ((conditions.flags.get flag).map (.marked flag)).toList

def rangeAtoms (conditions : Conditions) : List Atom :=
  conditions.modified.toList.flatMap DateRange.atoms

def fieldAtoms (conditions : Conditions) : List Atom :=
  Field.all.flatMap fun field =>
    (conditions.fields.get field).toList.flatMap (FieldValue.atoms field)

/-- The flags come first, then the range and the fields. -/
def atoms (conditions : Conditions) : List Atom :=
  conditions.flagAtoms ++ conditions.rangeAtoms ++ conditions.fieldAtoms

def flagClauses (conditions : Conditions) : List (Option Clause) :=
  Flag.all.map fun flag => (conditions.flags.get flag).map fun value => .atom (.marked flag value)

def fieldClauses (conditions : Conditions) : List (Option Clause) :=
  Field.all.map fun field => (conditions.fields.get field).bind (FieldValue.clause? field)

def clauses (conditions : Conditions) : List Clause :=
  (conditions.flagClauses ++ [conditions.modified.bind Emission.range] ++
    conditions.fieldClauses ++ [conditions.rawQuery.bind Clause.ofText?]).filterMap id

/-- The fields are searched in order. -/
def violation? (conditions : Conditions) : Option Violation :=
  Field.all.findSome? fun field => (conditions.fields.get field).bind (FieldValue.violation? field)

end Conditions

namespace Node

/-- The children come before the conditions of the node. -/
def atoms (node : Node (List Atom)) : List Atom :=
  node.children.flatten ++ node.conditions.atoms

def rawTexts (node : Node (List String)) : List String :=
  node.children.flatten ++ node.conditions.rawQuery.toList

def violation? (node : Node (Option Violation)) : Option Violation :=
  (node.children.findSome? id).or node.conditions.violation?

/-- The children without a clause are left out of a group. -/
def groupClause? (connective : Connective) (group : Option (List (Option Clause))) :
    Option Clause :=
  Clause.join connective ((group.getD []).filterMap id)

/-- These parts of a node can be sequences without parentheses. -/
def combined (node : Node (Option Clause)) : List Clause :=
  [groupClause? .conjunction node.conjuncts,
    groupClause? .disjunction node.disjuncts].filterMap id

def others (node : Node (Option Clause)) : List Clause :=
  [node.negation.join.map .negated,
    Clause.chain .conjunction node.conditions.clauses].filterMap id

def clause? (atRoot : Bool) (node : Node (Option Clause)) : Option Clause :=
  Emission.assemble atRoot node.combined node.others

end Node

namespace Expression

/-- These are the atoms that an expression tests, in the order of its query. -/
def atoms : Expression → List Atom :=
  fold (fun _ => []) Node.atoms

/-- These are the raw texts in an expression, in the order of its query. -/
def rawTexts : Expression → List String :=
  fold (fun text => [text]) Node.rawTexts

/-- The children are searched before the conditions of a node. -/
def violation? : Expression → Option Violation :=
  fold (fun _ => none) Node.violation?

/-- This is the clause of an expression inside another one. -/
def clause? : Expression → Option Clause :=
  fold Clause.ofText? (Node.clause? false)

/-- This is the clause of an expression that stands alone. -/
def rootClause? : Expression → Option Clause
  | .raw text => Clause.ofText? text
  | .node parts => (parts.map clause?).clause? true

theorem atoms_node (parts : Node Expression) :
    atoms (.node parts) = parts.children.flatMap atoms ++ parts.conditions.atoms := by
  rw [atoms, fold_node, Node.atoms, Node.children_map]
  rfl

theorem rawTexts_node (parts : Node Expression) :
    rawTexts (.node parts) =
      parts.children.flatMap rawTexts ++ parts.conditions.rawQuery.toList := by
  rw [rawTexts, fold_node, Node.rawTexts, Node.children_map]
  rfl

theorem violation?_node (parts : Node Expression) :
    violation? (.node parts) =
      (parts.children.findSome? violation?).or parts.conditions.violation? := by
  rw [violation?, fold_node, Node.violation?, Node.children_map, List.findSome?_map]
  rfl

theorem clause?_node (parts : Node Expression) :
    clause? (.node parts) = (parts.map clause?).clause? false := by
  rw [clause?, fold_node]

end Expression

end FileSearch
