/-
This file hides the values of an expression and shows that its clause changes in the same places
only. What stands around the literals of a clause does not depend on the values.
-/

import FileSearch.Proofs.Clause.Traversal
import FileSearch.Proofs.Expression.Traversal
import Mathlib.Data.List.ReduceOption

namespace FileSearch

open Text (Symbol)

/-- A visible value becomes a letter; a blank one stays blank. -/
def mask (text : String) : String :=
  if Text.isBlank text.toList then "" else "x"

theorem isBlank_mask (text : String) :
    Text.isBlank (mask text).toList = Text.isBlank text.toList := by
  rw [mask]
  cases Text.isBlank text.toList <;> rfl

/-- The same values stay visible. -/
theorem visible_mask (texts : List String) :
    visible (texts.map mask) = (visible texts).map mask := by
  rw [visible, visible, List.filter_map]
  have same : ((fun text : String => !Text.isBlank text.toList) ∘ mask) =
      fun text => !Text.isBlank text.toList := by
    funext text
    exact congrArg not (isBlank_mask text)
  rw [same]

/-- The literal of an atom is hidden. -/
def Atom.masked : Atom → Atom
  | .matching field value => .matching field (mask value)
  | .marked flag value => .marked flag value
  | .modifiedNotBefore bound => .modifiedNotBefore (mask bound)
  | .modifiedBefore bound => .modifiedBefore (mask bound)

theorem Atom.outline_masked (condition : Atom) :
    condition.masked.symbols.map Symbol.masked = condition.symbols.map Symbol.masked := by
  cases condition with
  | matching field value => cases field <;> rfl
  | marked flag value => rfl
  | modifiedNotBefore bound => rfl
  | modifiedBefore bound => rfl

namespace Clause

/-- The literals of a clause are hidden. -/
def masked : Clause → Clause :=
  fold (fun condition => .atom condition.masked) .verbatim .joined .grouped .negated

/-- These are the symbols of a clause without the values of its literals. -/
def outline (clause : Clause) : List Symbol :=
  clause.symbols.map Symbol.masked

theorem map_masked_word (text : List Char) :
    (Symbol.word text).map Symbol.masked = Symbol.word text :=
  List.map_map

theorem map_masked_joined (connective : Connective) (parts : List (List Symbol)) :
    (Symbol.joined connective parts).map Symbol.masked =
      Symbol.joined connective (parts.map (List.map Symbol.masked)) := by
  match parts with
  | [] => rfl
  | [part] => rfl
  | part :: second :: rest =>
    have inductionHypothesis := map_masked_joined connective (second :: rest)
    rw [Symbol.joined, List.map_append, List.map_append, map_masked_word, inductionHypothesis]
    · rfl
    · exact List.cons_ne_nil second rest

theorem map_masked_bracket (front back : List Char) (inner : List Symbol) :
    (Symbol.word front ++ (inner ++ Symbol.word back)).map Symbol.masked =
      Symbol.word front ++ (inner.map Symbol.masked ++ Symbol.word back) := by
  rw [List.map_append, List.map_append, map_masked_word, map_masked_word]

theorem outline_joined (connective : Connective) (parts : List Clause) :
    outline (.joined connective parts) = Symbol.joined connective (parts.map outline) := by
  rw [outline, symbols, fold_joined, map_masked_joined, List.map_map]
  rfl

theorem outline_grouped (inner : Clause) :
    outline (.grouped inner) =
      Symbol.word "(".toList ++ (inner.outline ++ Symbol.word ")".toList) :=
  map_masked_bracket "(".toList ")".toList inner.symbols

theorem outline_negated (inner : Clause) :
    outline (.negated inner) =
      Symbol.word "not (".toList ++ (inner.outline ++ Symbol.word ")".toList) :=
  map_masked_bracket "not (".toList ")".toList inner.symbols

/-- The outline does not depend on the values. -/
theorem outline_masked (clause : Clause) : clause.masked.outline = clause.outline := by
  induction clause using induct with
  | atAtom condition => exact condition.outline_masked
  | atVerbatim text => rfl
  | atJoined connective parts inductionHypothesis =>
    have each : (parts.map masked).map outline = parts.map outline := by
      rw [List.map_map]
      exact List.map_congr_left inductionHypothesis
    rw [masked, fold_joined, outline_joined, outline_joined]
    exact congrArg (Symbol.joined connective) each
  | atGrouped inner inductionHypothesis =>
    show outline (.grouped inner.masked) = outline (.grouped inner)
    rw [outline_grouped, outline_grouped, inductionHypothesis]
  | atNegated inner inductionHypothesis =>
    show outline (.negated inner.masked) = outline (.negated inner)
    rw [outline_negated, outline_negated, inductionHypothesis]

theorem masked_join (connective : Connective) (parts : List Clause) :
    (join connective parts).map masked = join connective (parts.map masked) := by
  match parts with
  | [] => rfl
  | [part] => rfl
  | part :: second :: rest =>
    apply congrArg some
    exact fold_joined _ _ _ _ _ connective _

theorem masked_chain (connective : Connective) (parts : List Clause) :
    (chain connective parts).map masked = chain connective (parts.map masked) := by
  match parts with
  | [] => rfl
  | [part] => rfl
  | part :: second :: rest =>
    apply congrArg some
    apply congrArg Clause.grouped
    exact fold_joined _ _ _ _ _ connective _

theorem masked_negation (inner : Option Clause) :
    (inner.map .negated).map masked = (inner.map masked).map .negated := by
  cases inner <;> rfl

theorem masked_ofText? (text : String) : (ofText? text).map masked = ofText? text := by
  rw [ofText?]
  cases Text.isBlank text.toList <;> rfl

end Clause

/-- This function changes the entry of every field. -/
def FieldMap.map {Entry Other : Type} (convert : Entry → Other) (entries : FieldMap Entry) :
    FieldMap Other :=
  ⟨convert entries.name, convert entries.mimeType, convert entries.fullText,
    convert entries.parentId, convert entries.owner⟩

theorem FieldMap.get_map {Entry Other : Type} (convert : Entry → Other) (entries : FieldMap Entry)
    (field : Field) : (entries.map convert).get field = convert (entries.get field) := by
  cases field <;> rfl

namespace FieldOperator

def masked (lists : FieldOperator) : FieldOperator where
  anyOf := lists.anyOf.map (List.map mask)
  allOf := lists.allOf.map (List.map mask)
  noneOf := lists.noneOf.map (List.map mask)

theorem valueClauses_masked (field : Field) (texts : Option (List String)) :
    valueClauses field (texts.map (List.map mask)) =
      (valueClauses field texts).map Clause.masked := by
  have values : (texts.map (List.map mask)).getD [] = (texts.getD []).map mask := by
    cases texts <;> rfl
  rw [valueClauses, values, visible_mask, valueClauses, List.map_map, List.map_map]
  rfl

theorem clause?_masked (field : Field) (lists : FieldOperator) :
    lists.masked.clause? field = (lists.clause? field).map Clause.masked := by
  rw [clause?, clause?, Clause.masked_chain, ← List.reduceOption,
    ← List.reduceOption_map]
  simp only [masked, valueClauses_masked, List.map_cons, List.map_nil, Clause.masked_chain,
    Clause.masked_negation, Clause.masked_join]

end FieldOperator

namespace FieldValue

def masked : FieldValue → FieldValue
  | .plain text => .plain (mask text)
  | .operator lists => .operator lists.masked

theorem clause?_masked (field : Field) (tested : FieldValue) :
    tested.masked.clause? field = (tested.clause? field).map Clause.masked := by
  cases tested with
  | operator lists => exact lists.clause?_masked field
  | plain text =>
    rw [masked, clause?, clause?, isBlank_mask]
    cases Text.isBlank text.toList <;> rfl

end FieldValue

namespace DateRange

def masked (range : DateRange) : DateRange where
  notBefore := range.notBefore.map mask
  before := range.before.map mask

theorem bound?_masked {atom : String → Atom} (bound : Option String)
    (hides : ∀ text, (atom text).masked = atom (mask text)) :
    Emission.bound? atom (bound.map mask) = (Emission.bound? atom bound).map Clause.masked := by
  cases bound with
  | none => rfl
  | some text =>
    have hidden : Clause.masked (.atom (atom text)) = .atom (atom (mask text)) :=
      congrArg Clause.atom (hides text)
    rw [Option.map_some, Emission.bound?, Emission.bound?, Option.filter_some, Option.filter_some,
      isBlank_mask]
    cases Text.isBlank text.toList with
    | true => rfl
    | false => exact congrArg some hidden.symm

theorem range_masked (range : DateRange) :
    Emission.range range.masked = (Emission.range range).map Clause.masked := by
  rw [Emission.range, Emission.range, Clause.masked_chain, ← List.reduceOption,
    ← List.reduceOption_map]
  simp only [masked, List.map_cons, List.map_nil]
  rw [bound?_masked _ fun _ => rfl, bound?_masked _ fun _ => rfl]

end DateRange

namespace Conditions

/-- A raw text is no value and stays as it is. -/
def masked (conditions : Conditions) : Conditions where
  fields := conditions.fields.map (Option.map FieldValue.masked)
  flags := conditions.flags
  modified := conditions.modified.map DateRange.masked
  rawQuery := conditions.rawQuery

theorem clauses_masked (conditions : Conditions) :
    conditions.masked.clauses = conditions.clauses.map Clause.masked := by
  have flags : conditions.masked.flagClauses =
      conditions.flagClauses.map (Option.map Clause.masked) := by
    rw [flagClauses, flagClauses, List.map_map]
    apply List.map_congr_left
    intro flag _
    show (conditions.flags.get flag).map _ = ((conditions.flags.get flag).map _).map Clause.masked
    rw [Option.map_map]
    rfl
  have fields : conditions.masked.fieldClauses =
      conditions.fieldClauses.map (Option.map Clause.masked) := by
    rw [fieldClauses, fieldClauses, List.map_map]
    apply List.map_congr_left
    intro field _
    rw [masked, FieldMap.get_map, Function.comp_apply]
    cases conditions.fields.get field with
    | none => rfl
    | some tested => exact tested.clause?_masked field
  have range : conditions.masked.modified.bind Emission.range =
      (conditions.modified.bind Emission.range).map Clause.masked := by
    rw [masked]
    cases conditions.modified with
    | none => rfl
    | some range => exact range.range_masked
  have raw : conditions.masked.rawQuery.bind Clause.ofText? =
      (conditions.rawQuery.bind Clause.ofText?).map Clause.masked := by
    rw [masked]
    cases conditions.rawQuery with
    | none => rfl
    | some text => exact (Clause.masked_ofText? text).symm
  rw [clauses, clauses, ← List.reduceOption, ← List.reduceOption_map, flags, fields, range, raw]
  simp only [List.map_append, List.map_cons, List.map_nil]

end Conditions

theorem Emission.masked_assemble (atRoot : Bool) (combined others : List Clause) :
    (assemble atRoot combined others).map Clause.masked =
      assemble atRoot (combined.map Clause.masked) (others.map Clause.masked) := by
  have chained : (Clause.chain .conjunction (combined.map .grouped ++ others)).map Clause.masked =
      Clause.chain .conjunction
        ((combined.map Clause.masked).map .grouped ++ others.map Clause.masked) := by
    rw [Clause.masked_chain, List.map_append, List.map_map, List.map_map]
    rfl
  cases atRoot with
  | false => exact chained
  | true =>
    unfold assemble
    rw [← List.map_append]
    cases all : combined ++ others with
    | nil => exact chained
    | cons first rest =>
      cases rest with
      | nil => rfl
      | cons second rest => exact chained

namespace Node

theorem groupClause?_masked (connective : Connective) (group : Option (List (Option Clause))) :
    groupClause? connective (group.map (List.map (Option.map Clause.masked))) =
      (groupClause? connective group).map Clause.masked := by
  rw [groupClause?, groupClause?, Clause.masked_join, ← List.reduceOption,
    ← List.reduceOption_map]
  cases group <;> rfl

/-- The values of a node are hidden when those of its children are. -/
theorem clause?_masked (atRoot : Bool) (node : Node (Option Clause)) :
    Node.clause? atRoot { node.map (Option.map Clause.masked) with
        conditions := node.conditions.masked } =
      (node.clause? atRoot).map Clause.masked := by
  have negation : (node.negation.map (Option.map Clause.masked)).join.map Clause.negated =
      (node.negation.join.map Clause.negated).map Clause.masked := by
    rcases node.negation with _ | _ | inner <;> rfl
  rw [clause?, clause?, Emission.masked_assemble, combined, combined, others, others,
    ← List.reduceOption, ← List.reduceOption_map, ← List.reduceOption_map]
  simp only [map, List.map_cons, List.map_nil, groupClause?_masked, Clause.masked_chain,
    Conditions.clauses_masked, negation]

end Node

namespace Expression

/-- All values of an expression are hidden. -/
def masked : Expression → Expression :=
  fold .raw fun node => .node { node with conditions := node.conditions.masked }

theorem masked_node (parts : Node Expression) :
    masked (.node parts) =
      .node { parts.map masked with conditions := parts.conditions.masked } := by
  rw [masked, fold_node]
  rfl

theorem map_masked {parts : Node Expression}
    (hides : ∀ child ∈ parts.children, child.masked.clause? = child.clause?.map Clause.masked) :
    (parts.map masked).map clause? = (parts.map clause?).map (Option.map Clause.masked) := by
  rw [Node.map_map, Node.map_map]
  exact Node.map_congr hides

theorem clause?_masked (expression : Expression) :
    expression.masked.clause? = expression.clause?.map Clause.masked := by
  induction expression using induct with
  | atRaw text => exact (Clause.masked_ofText? text).symm
  | atNode parts inductionHypothesis =>
    rw [clause?_node, ← Node.clause?_masked, ← map_masked inductionHypothesis, masked_node,
      clause?_node]
    rfl

theorem rootClause?_masked (parts : Node Expression) :
    (masked (.node parts)).rootClause? = (rootClause? (.node parts)).map Clause.masked := by
  have children := map_masked fun child (_ : child ∈ parts.children) => child.clause?_masked
  rw [rootClause?, ← Node.clause?_masked, ← children, masked_node, rootClause?]
  rfl

end Expression

end FileSearch
