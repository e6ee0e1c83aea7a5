/-
This file shows what an emission does: it refuses with the first violation of the expression, or it
records the atoms of the expression and gives its clause.
-/

import FileSearch.Compiled
import FileSearch.Proofs.Entries
import FileSearch.Proofs.Expression.Traversal
import FileSearch.Proofs.Summary

namespace FileSearch

/-- A test of a field or of a flag is recorded; the bounds of a range are not. -/
def Atom.change? : Atom → Option Summary.Change
  | .matching field value => some (.value field value)
  | .marked flag value => some (.flag flag value)
  | .modifiedNotBefore _ => none
  | .modifiedBefore _ => none

/-- These are the records of atoms in a summary. -/
def Atom.changes (atoms : List Atom) : List Summary.Change :=
  atoms.filterMap Atom.change?

@[simp]
theorem Atom.changes_append (first second : List Atom) :
    Atom.changes (first ++ second) = Atom.changes first ++ Atom.changes second := by
  simp [Atom.changes]

theorem Atom.changes_matching (field : Field) (texts : List String) :
    Atom.changes (texts.map (.matching field)) = texts.map (.value field) := by
  induction texts with
  | nil => rfl
  | cons text texts inductionHypothesis =>
    rw [List.map_cons, List.map_cons, ← inductionHypothesis]
    rfl

theorem Atom.changes_flatMap {Item : Type} (items : List Item) (atoms : Item → List Atom) :
    Atom.changes (items.flatMap atoms) = items.flatMap fun item => Atom.changes (atoms item) :=
  List.filterMap_flatMap

theorem DateRange.changes_atoms (range : DateRange) : Atom.changes range.atoms = [] := by
  rw [DateRange.atoms, Atom.changes_append]
  simp [Atom.changes, List.filterMap_map, Function.comp_def, Atom.change?]

theorem Conditions.changes_rangeAtoms (conditions : Conditions) :
    Atom.changes conditions.rangeAtoms = [] := by
  rw [Conditions.rangeAtoms, Atom.changes_flatMap]
  simp [DateRange.changes_atoms]

/-- These are the clauses for the parts of a node. A part that asks for nothing has none. -/
structure Fragments where
  conjuncts : Option Clause
  disjuncts : Option Clause
  negation : Option Clause
  conditions : Option Clause

namespace Fragments

/-- These parts can be sequences without parentheses. -/
def groups (fragments : Fragments) : List (Option Clause) :=
  [fragments.conjuncts, fragments.disjuncts]

def others (fragments : Fragments) : List (Option Clause) :=
  [fragments.negation, fragments.conditions]

def assemble (atRoot : Bool) (fragments : Fragments) : Option Clause :=
  Emission.assemble atRoot (fragments.groups.filterMap id) (fragments.others.filterMap id)

end Fragments

def Node.fragments (node : Node (Option Clause)) : Fragments where
  conjuncts := groupClause? .conjunction node.conjuncts
  disjuncts := groupClause? .disjunction node.disjuncts
  negation := node.negation.join.map .negated
  conditions := Clause.chain .conjunction node.conditions.clauses

namespace Emission

variable {Item Result Other : Type}

/-- The emission refuses with the violation where there is one. Else it makes the changes and gives
the result. -/
def Yields (emission : Emission Result) (violation? : Option Violation)
    (changes : List Summary.Change) (result : Result) : Prop :=
  ∀ summary : Summary, emission.run summary =
    match violation? with
    | none => .ok (result, summary.changes changes)
    | some violation => .error violation

theorem yields_pure (result : Result) : Yields (pure result) none [] result :=
  fun _ => rfl

theorem yields_throw (violation : Violation) (changes : List Summary.Change) (result : Result) :
    Yields (throw violation) (some violation) changes result :=
  fun _ => rfl

/-- A refusal stops what would follow. -/
theorem yields_refusal {emission : Emission Result} {changes : List Summary.Change}
    {result : Result} (refused : Bool) (violation : Violation)
    (yields : Yields emission none changes result) :
    Yields
      (do
        if refused then throw violation
        emission)
      (if refused then some violation else none) changes result := by
  cases refused with
  | true => exact yields_throw violation changes result
  | false => exact yields

/-- The first violation counts, and the changes are made in order. -/
theorem Yields.bind {first : Emission Result} {violation? later? : Option Violation}
    {changes others : List Summary.Change} {result : Result} {other : Other}
    (yields : Yields first violation? changes result) (next : Result → Emission Other)
    (continues : Yields (next result) later? others other) :
    Yields (first >>= next) (violation?.or later?) (changes ++ others) other := by
  intro summary
  rw [StateT.run_bind, yields summary]
  cases violation? with
  | none =>
    rw [Option.none_or, Summary.changes_append]
    exact continues (summary.changes changes)
  | some violation => rfl

theorem Yields.map {emission : Emission Result} {violation? : Option Violation}
    {changes : List Summary.Change} {result : Result}
    (yields : Yields emission violation? changes result) (convert : Result → Other) :
    Yields (do return convert (← emission)) violation? changes (convert result) := by
  have mapped := yields.bind (fun result => pure (convert result)) (yields_pure (convert result))
  rwa [Option.or_none, List.append_nil] at mapped

/-- The items are emitted in order. -/
theorem yields_mapM {step : Item → Emission Result} {violation? : Item → Option Violation}
    {changes : Item → List Summary.Change} {result : Item → Result} (items : List Item)
    (yields : ∀ item ∈ items, Yields (step item) (violation? item) (changes item) (result item)) :
    Yields (items.mapM step) (items.findSome? violation?) (items.flatMap changes)
      (items.map result) := by
  induction items with
  | nil => exact yields_pure []
  | cons item items inductionHypothesis =>
    rw [List.forall_mem_cons] at yields
    have rest := (inductionHypothesis yields.2).map (result item :: ·)
    have all := yields.1.bind (fun first => do return first :: (← items.mapM step)) rest
    rw [List.mapM_cons, List.flatMap_cons, List.map_cons]
    rwa [findSome?_cons_eq_or]

theorem value_yields (field : Field) (text : String) :
    Yields (value field text) none [.value field text] (.atom (.matching field text)) :=
  fun _ => rfl

/-- Values are never refused. -/
theorem values_yields (field : Field) (texts : Option (List String)) :
    Yields (values field (texts.getD [])) none
      ((visible (texts.getD [])).map (.value field)) (FieldOperator.valueClauses field texts) := by
  have all := yields_mapM (visible (texts.getD [])) fun text _ => value_yields field text
  rwa [List.findSome?_eq_none_iff.mpr fun _ _ => rfl, ← List.map_eq_flatMap] at all

theorem operator_yields (field : Field) (lists : FieldOperator) :
    Yields (operator field lists) ((FieldValue.operator lists).violation? field)
      (Atom.changes (lists.atoms field)) (lists.clause? field) := by
  refine yields_refusal lists.isKeyless ⟨field⟩ ?_
  rw [FieldOperator.atoms, Atom.changes_matching, List.map_append, List.map_append,
    List.append_assoc]
  refine (values_yields field lists.anyOf).bind _ ?_
  refine (values_yields field lists.allOf).bind _ ?_
  exact (values_yields field lists.noneOf).map _

theorem fieldCondition_yields (field : Field) (tested : FieldValue) :
    Yields (fieldCondition field tested) (tested.violation? field)
      (Atom.changes (tested.atoms field)) (tested.clause? field) := by
  cases tested with
  | operator lists => exact operator_yields field lists
  | plain text =>
    rw [fieldCondition, FieldValue.atoms, FieldValue.clause?, visible_singleton]
    cases Text.isBlank text.toList with
    | true => exact yields_pure none
    | false => exact (value_yields field text).map some

/-- A field that is not set is not tested. -/
theorem fieldConditionOf_yields (conditions : Conditions) (field : Field) :
    Yields (fieldConditionOf conditions field)
      ((conditions.fields.get field).bind (FieldValue.violation? field))
      (Atom.changes ((conditions.fields.get field).toList.flatMap (FieldValue.atoms field)))
      ((conditions.fields.get field).bind (FieldValue.clause? field)) := by
  unfold fieldConditionOf
  cases conditions.fields.get field with
  | none => exact yields_pure none
  | some tested =>
    rw [Option.toList_some, List.flatMap_singleton]
    exact fieldCondition_yields field tested

theorem flagCondition_yields (conditions : Conditions) (flag : Flag) :
    Yields (flagCondition conditions flag) none
      (Atom.changes ((conditions.flags.get flag).map (.marked flag)).toList)
      ((conditions.flags.get flag).map fun value => .atom (.marked flag value)) := by
  unfold flagCondition
  cases conditions.flags.get flag with
  | none => exact yields_pure none
  | some value => exact fun _ => rfl

theorem conditionClauses_yields (conditions : Conditions) :
    Yields (conditionClauses conditions) conditions.violation? (Atom.changes conditions.atoms)
      conditions.clauses := by
  have flags := yields_mapM Flag.all fun flag _ => flagCondition_yields conditions flag
  have fields := yields_mapM Field.all fun field _ => fieldConditionOf_yields conditions field
  rw [List.findSome?_eq_none_iff.mpr fun _ _ => rfl, ← Atom.changes_flatMap] at flags
  rw [← Atom.changes_flatMap] at fields
  rw [Conditions.atoms, Atom.changes_append, Atom.changes_append, Conditions.changes_rangeAtoms,
    List.append_nil]
  refine flags.bind _ ?_
  exact fields.map _

/-- The emission of an expression gives what a reading of the expression gives. -/
def Reads (child : Expression) : Prop :=
  Yields (expression child) child.violation? (Atom.changes child.atoms) child.clause?

theorem expressions_yields {children : List Expression} (reads : ∀ child ∈ children, Reads child) :
    Yields (expressions children) (children.findSome? Expression.violation?)
      (Atom.changes (children.flatMap Expression.atoms))
      ((children.map Expression.clause?).filterMap id) := by
  induction children with
  | nil => exact yields_pure []
  | cons child children inductionHypothesis =>
    rw [List.forall_mem_cons] at reads
    rw [findSome?_cons_eq_or, List.flatMap_cons, Atom.changes_append, List.map_cons,
      filterMap_id_cons]
    refine reads.1.bind _ ?_
    exact (inductionHypothesis reads.2).map _

theorem group_yields (connective : Connective) {children : Option (List Expression)}
    (reads : ∀ child ∈ children.getD [], Reads child) :
    Yields (group connective children) ((children.getD []).findSome? Expression.violation?)
      (Atom.changes ((children.getD []).flatMap Expression.atoms))
      (Node.groupClause? connective (children.map (List.map Expression.clause?))) := by
  cases children with
  | none => exact yields_pure none
  | some children => exact (expressions_yields reads).map _

theorem negated_yields {child : Option Expression} (reads : ∀ inner ∈ child, Reads inner) :
    Yields (negated child) (child.toList.findSome? Expression.violation?)
      (Atom.changes (child.toList.flatMap Expression.atoms))
      ((child.map Expression.clause?).join.map .negated) := by
  cases child with
  | none => exact yields_pure none
  | some inner =>
    rw [Option.toList_some, List.flatMap_singleton, findSome?_cons_eq_or, List.findSome?_nil,
      Option.or_none]
    exact (reads inner rfl).map _

/-- The parts of a node are emitted in order, wherever the node stands. -/
def fragments : Node Expression → Emission Fragments
  | ⟨conjuncts, disjuncts, negation, conditions⟩ => do
    let conjuncts ← group .conjunction conjuncts
    let disjuncts ← group .disjunction disjuncts
    let negation ← negated negation
    let conditions := Clause.chain .conjunction (← conditionClauses conditions)
    return ⟨conjuncts, disjuncts, negation, conditions⟩

/-- Its place decides only how the parts of a node are assembled. -/
theorem node_eq_assemble (atRoot : Bool) (parts : Node Expression) :
    node atRoot parts = do return (← fragments parts).assemble atRoot := by
  obtain ⟨conjuncts, disjuncts, negation, conditions⟩ := parts
  simp only [node, fragments, bind_assoc, pure_bind]
  rfl

/-- The parts of a node are read when its children are. -/
theorem fragments_yields (parts : Node Expression)
    (reads : ∀ child ∈ parts.children, Reads child) :
    Yields (fragments parts) (Expression.node parts).violation?
      (Atom.changes (Expression.node parts).atoms) (parts.map Expression.clause?).fragments := by
  obtain ⟨conjuncts, disjuncts, negation, conditions⟩ := parts
  simp only [Node.children, List.mem_append, Option.mem_toList] at reads
  rw [Expression.violation?_node, Expression.atoms_node, Node.children]
  simp only [List.findSome?_append, List.flatMap_append, Atom.changes_append, Option.or_assoc,
    List.append_assoc]
  refine (group_yields .conjunction fun child member => reads child (.inl (.inl member))).bind _ ?_
  refine (group_yields .disjunction fun child member => reads child (.inl (.inr member))).bind _ ?_
  refine (negated_yields fun child member => reads child (.inr member)).bind _ ?_
  exact (conditionClauses_yields conditions).map _

theorem node_yields (atRoot : Bool) (parts : Node Expression)
    (reads : ∀ child ∈ parts.children, Reads child) :
    Yields (node atRoot parts) (Expression.node parts).violation?
      (Atom.changes (Expression.node parts).atoms)
      ((parts.map Expression.clause?).clause? atRoot) := by
  rw [node_eq_assemble]
  exact (fragments_yields parts reads).map (Fragments.assemble atRoot)

theorem reads (child : Expression) : Reads child := by
  induction child using Expression.induct with
  | atRaw text => exact yields_pure _
  | atNode parts inductionHypothesis =>
    rw [Reads, Expression.clause?_node]
    exact node_yields false parts inductionHypothesis

end Emission

namespace Expression

/-- A node is refused with its first violation, or its clause is written and its atoms are
recorded. -/
theorem compile_node (parts : Node Expression) :
    compile (.node parts) =
      match violation? (.node parts) with
      | none =>
        .ok (Compiled.ofClause (rootClause? (.node parts))
          (Summary.empty.changes (Atom.changes (atoms (.node parts)))))
      | some violation => .error violation := by
  have emitted := Emission.node_yields true parts (fun child _ => Emission.reads child)
    Summary.empty
  rw [compile, emitted]
  cases violation? (.node parts) <;> rfl

theorem compile_node_eq_ok_iff {parts : Node Expression} {compiled : Compiled} :
    compile (.node parts) = .ok compiled ↔
      violation? (.node parts) = none ∧
        compiled = Compiled.ofClause (rootClause? (.node parts))
          (Summary.empty.changes (Atom.changes (atoms (.node parts)))) := by
  rw [compile_node]
  cases violation? (.node parts) with
  | none => rw [Except.ok.injEq, eq_comm, eq_self, true_and]
  | some violation =>
    exact iff_of_false (fun compiles => nomatch compiles) fun accepted => nomatch accepted.1

end Expression

end FileSearch
