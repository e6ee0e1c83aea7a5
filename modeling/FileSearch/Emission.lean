/-
This file turns expressions into clauses and records what they mention on the way.
-/

import FileSearch.Clause
import FileSearch.Expression.Basic
import FileSearch.Summary
import FileSearch.Violation

namespace FileSearch

/-- An emission adds to a summary and gives a result or a violation. -/
abbrev Emission := StateT Summary (Except Violation)

namespace Emission

/-- Each literal is recorded, whatever the logic around it. -/
def value (field : Field) (text : String) : Emission Clause := do
  modify (·.recordValue field text)
  return .atom (.matching field text)

/-- Blank values are left out. -/
def values (field : Field) (texts : List String) : Emission (List Clause) :=
  (texts.filter fun text => !Text.isBlank text.toList).mapM (value field)

/-- One of the values is enough for the first list, all of them are needed for the second one, and
none of them is allowed for the third one. All lists count. -/
def operator (field : Field) (lists : FieldOperator) : Emission (Option Clause) := do
  if lists.isKeyless then throw ⟨field⟩
  let anyOf ← values field (lists.anyOf.getD [])
  let allOf ← values field (lists.allOf.getD [])
  let noneOf ← values field (lists.noneOf.getD [])
  return Clause.chain .conjunction
    ([Clause.chain .disjunction anyOf, Clause.chain .conjunction allOf,
      (Clause.join .disjunction noneOf).map .negated].filterMap id)

/-- A plain value is tested unless it is blank. -/
def fieldCondition (field : Field) : FieldValue → Emission (Option Clause)
  | .plain text =>
    if Text.isBlank text.toList then return none else return some (← value field text)
  | .operator lists => operator field lists

/-- Blank bounds are left out. -/
def bound? (atom : String → Atom) (bound : Option String) : Option Clause :=
  (bound.filter fun text => !Text.isBlank text.toList).map fun text => .atom (atom text)

def range (bounds : DateRange) : Option Clause :=
  Clause.chain .conjunction
    ([bound? .modifiedNotBefore bounds.notBefore,
      bound? .modifiedBefore bounds.before].filterMap id)

/-- A flag that is set is recorded and tested. -/
def flagCondition (conditions : Conditions) (flag : Flag) : Emission (Option Clause) := do
  match conditions.flags.get flag with
  | none => return none
  | some value =>
    modify (·.recordFlag flag value)
    return some (.atom (.marked flag value))

/-- A field that is set is tested. -/
def fieldConditionOf (conditions : Conditions) (field : Field) : Emission (Option Clause) := do
  match conditions.fields.get field with
  | none => return none
  | some tested => fieldCondition field tested

/-- The flags come first, then the range, the fields and the raw text. -/
def conditionClauses (conditions : Conditions) : Emission (List Clause) := do
  let flags ← Flag.all.mapM (flagCondition conditions)
  let fields ← Field.all.mapM (fieldConditionOf conditions)
  return (flags ++ [conditions.modified.bind range] ++ fields ++
    [conditions.rawQuery.bind Clause.ofText?]).filterMap id

/-- A single part of the root stands alone. Elsewhere the combined parts are put in parentheses, and
so is the whole when it has two or more parts. -/
def assemble (atRoot : Bool) (combined others : List Clause) : Option Clause :=
  match atRoot, combined ++ others with
  | true, [only] => some only
  | _, _ => Clause.chain .conjunction (combined.map .grouped ++ others)

mutual

/-- This function emits an expression inside another one. -/
def expression : Expression → Emission (Option Clause)
  | .raw text => return Clause.ofText? text
  | .node parts => node false parts

/-- The conjuncts come first, then the disjuncts, the negation and the conditions. -/
def node (atRoot : Bool) : Node Expression → Emission (Option Clause)
  | ⟨conjuncts, disjuncts, negation, conditions⟩ => do
    let conjuncts ← group .conjunction conjuncts
    let disjuncts ← group .disjunction disjuncts
    let negation ← negated negation
    let conditions := Clause.chain .conjunction (← conditionClauses conditions)
    return assemble atRoot ([conjuncts, disjuncts].filterMap id)
      ([negation, conditions].filterMap id)

/-- Children without a clause are left out. -/
def group (connective : Connective) : Option (List Expression) → Emission (Option Clause)
  | none => return none
  | some children => do return Clause.join connective (← expressions children)

def negated : Option Expression → Emission (Option Clause)
  | none => return none
  | some child => do return (← expression child).map .negated

/-- This function emits the children of a node in order. -/
def expressions : List Expression → Emission (List Clause)
  | [] => return []
  | child :: children => do
    let first ← expression child
    let rest ← expressions children
    return first.toList ++ rest

end

end Emission

end FileSearch
