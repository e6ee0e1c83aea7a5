/-
This file defines search expressions: trees of conditions on files.
-/

import FileSearch.Conditions

namespace FileSearch

/-- A node is satisfied when all its parts are: all its conjuncts, one of its disjuncts, not its
negation, and its conditions. A part that is absent asks for nothing. -/
structure Node (Child : Type) where
  conjuncts : Option (List Child)
  disjuncts : Option (List Child)
  negation : Option Child
  conditions : Conditions

/-- This node asks for nothing. -/
def Node.empty {Child : Type} : Node Child := ⟨none, none, none, Conditions.none⟩

/-- An expression is a query text that is used as it is, or a node over expressions. -/
inductive Expression where
  | raw (text : String)
  | node (node : Node Expression)

namespace Expression

/-- This expression asks for nothing. -/
def empty : Expression := .node Node.empty

/-- This function changes a node; a raw text has no parts and stays as it is. -/
def updateNode (update : Node Expression → Node Expression) : Expression → Expression
  | .raw text => .raw text
  | .node parts => .node (update parts)

/-- This function changes the conditions of a node. -/
def updateConditions (update : Conditions → Conditions) : Expression → Expression :=
  updateNode fun parts => { parts with conditions := update parts.conditions }

def setField (expression : Expression) (field : Field) (value : FieldValue) : Expression :=
  expression.updateConditions fun conditions =>
    { conditions with fields := conditions.fields.set field (some value) }

def setFlag (expression : Expression) (flag : Flag) (value : Option Bool) : Expression :=
  expression.updateConditions fun conditions =>
    { conditions with flags := conditions.flags.set flag value }

def setModified (expression : Expression) (range : DateRange) : Expression :=
  expression.updateConditions fun conditions => { conditions with modified := some range }

def setRawQuery (expression : Expression) (text : Option String) : Expression :=
  expression.updateConditions fun conditions => { conditions with rawQuery := text }

def setConjuncts (expression : Expression) (children : List Expression) : Expression :=
  expression.updateNode fun parts => { parts with conjuncts := some children }

def setDisjuncts (expression : Expression) (children : List Expression) : Expression :=
  expression.updateNode fun parts => { parts with disjuncts := some children }

def setNegation (expression child : Expression) : Expression :=
  expression.updateNode fun parts => { parts with negation := some child }

mutual

/-- An expression settles the trash flag when its own node sets it or one of its conjuncts settles
it; disjuncts, negations and raw texts do not count. -/
def constrainsTrashed : Expression → Bool
  | .raw _ => false
  | .node parts => nodeConstrainsTrashed parts

def nodeConstrainsTrashed : Node Expression → Bool
  | ⟨conjuncts, _, _, conditions⟩ =>
    (conditions.flags.get .trashed).isSome || groupConstrainsTrashed conjuncts

def groupConstrainsTrashed : Option (List Expression) → Bool
  | none => false
  | some children => someConstrainsTrashed children

def someConstrainsTrashed : List Expression → Bool
  | [] => false
  | child :: children => constrainsTrashed child || someConstrainsTrashed children

end

end Expression

end FileSearch
