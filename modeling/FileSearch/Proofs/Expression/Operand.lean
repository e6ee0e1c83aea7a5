/-
This file compares the clause of an expression inside another one with its clause when it stands
alone. Only a raw text that nothing is joined to goes in without parentheses whatever it holds.
-/

import FileSearch.Proofs.Clause.Reading

namespace FileSearch

namespace Clause

/-- This clause is a raw text. -/
def IsVerbatim (clause : Clause) : Prop :=
  ∃ text, clause = .verbatim text

/-- A chain is a raw text only when it has no other part. -/
theorem chain_eq_verbatim_iff (connective : Connective) (parts : List Clause) (text : String) :
    chain connective parts = some (.verbatim text) ↔ parts = [.verbatim text] := by
  match parts with
  | [] => simp [chain]
  | [only] => simp [chain]
  | first :: second :: others => simp [chain]

theorem ofText?_eq_verbatim_iff (written text : String) :
    ofText? written = some (.verbatim text) ↔
      written = text ∧ Text.isBlank text.toList = false := by
  rw [ofText?]
  constructor
  · intro found
    split at found
    · cases found
    · next visible =>
      cases found
      exact ⟨rfl, Bool.of_not_eq_true visible⟩
  · rintro ⟨rfl, visible⟩
    rw [visible]
    rfl

/-- Nothing that is built from other clauses is a raw text. -/
theorem kept_notVerbatim : Kept (fun clause => ¬ IsVerbatim clause) (fun _ => True) where
  alone := by
    intro clause _
    trivial
  joined := by
    intro connective first others _
    trivial
  grouped := by
    rintro clause _ ⟨text, same⟩
    cases same
  negated := by
    rintro clause _ ⟨text, same⟩
    cases same

end Clause

namespace Conditions

/-- These conditions have no raw text. -/
def withoutRaw (conditions : Conditions) : Conditions :=
  { conditions with rawQuery := Option.none }

/-- The raw text comes last. -/
theorem clauses_eq_append (conditions : Conditions) :
    conditions.clauses =
      conditions.withoutRaw.clauses ++ (conditions.rawQuery.bind Clause.ofText?).toList := by
  have separate (text : Option String) :
      (conditions.flagClauses ++ [conditions.modified.bind Emission.range] ++
        conditions.fieldClauses ++ [text.bind Clause.ofText?]).filterMap id =
      (conditions.flagClauses ++ [conditions.modified.bind Emission.range] ++
        conditions.fieldClauses).filterMap id ++ (text.bind Clause.ofText?).toList := by
    rw [List.filterMap_append, filterMap_id_cons, List.filterMap_nil, List.append_nil]
  have others : conditions.withoutRaw.clauses = _ := separate Option.none
  rw [clauses, separate, others, Option.bind_none, Option.toList_none, List.append_nil]

theorem not_isVerbatim_of_withoutRaw (conditions : Conditions) :
    ∀ clause ∈ conditions.withoutRaw.clauses, ¬ clause.IsVerbatim := by
  apply Clause.kept_notVerbatim.conditions
  · rintro atom _ ⟨text, same⟩
    cases same
  · intro text member
    cases member

/-- The conditions give a raw text only when they have nothing else to give. -/
theorem clauses_eq_verbatim_iff (conditions : Conditions) (text : String) :
    conditions.clauses = [.verbatim text] ↔
      conditions.withoutRaw.clauses = [] ∧ conditions.rawQuery = some text ∧
        Text.isBlank text.toList = false := by
  have raw : conditions.rawQuery.bind Clause.ofText? = some (.verbatim text) ↔
      conditions.rawQuery = some text ∧ Text.isBlank text.toList = false := by
    rw [Option.bind_eq_some_iff]
    constructor
    · rintro ⟨written, found, given⟩
      obtain ⟨rfl, visible⟩ := (Clause.ofText?_eq_verbatim_iff written text).mp given
      exact ⟨found, visible⟩
    · rintro ⟨found, visible⟩
      exact ⟨text, found, (Clause.ofText?_eq_verbatim_iff text text).mpr ⟨rfl, visible⟩⟩
  rw [clauses_eq_append, ← raw]
  cases others : conditions.withoutRaw.clauses with
  | nil =>
    rw [List.nil_append]
    cases conditions.rawQuery.bind Clause.ofText? <;> simp
  | cons first rest =>
    refine iff_of_false (fun same => ?_) fun both => List.cons_ne_nil first rest both.1
    have given := (List.cons.inj same).1
    have member : first ∈ conditions.withoutRaw.clauses := others ▸ List.mem_cons_self
    exact not_isVerbatim_of_withoutRaw conditions first member ⟨text, given⟩

end Conditions

namespace Node

/-- This node has no raw text of its own. -/
def withoutRaw {Child : Type} (node : Node Child) : Node Child :=
  { node with conditions := node.conditions.withoutRaw }

theorem clause?_withoutRaw_eq_none_iff (node : Node (Option Clause)) :
    node.withoutRaw.clause? false = none ↔
      node.combined = [] ∧ node.negation.join = none ∧
        node.conditions.withoutRaw.clauses = [] := by
  have others : node.withoutRaw.others = [] ↔
      node.negation.join = none ∧ node.conditions.withoutRaw.clauses = [] := by
    rw [Node.others, filterMap_id_cons, filterMap_id_cons, List.filterMap_nil, List.append_nil,
      List.append_eq_nil_iff, Option.toList_eq_nil_iff, Option.toList_eq_nil_iff,
      Option.map_eq_none_iff, Clause.chain_eq_none_iff]
    rfl
  rw [← others]
  refine (Clause.chain_eq_none_iff _ _).trans ?_
  rw [List.append_eq_nil_iff, List.map_eq_nil_iff]
  rfl

/-- A node gives a raw text only when it has nothing else to give. -/
theorem clause?_eq_verbatim_iff (node : Node (Option Clause)) (text : String) :
    node.clause? false = some (.verbatim text) ↔
      node.withoutRaw.clause? false = none ∧ node.conditions.rawQuery = some text ∧
        Text.isBlank text.toList = false := by
  have others : node.others = [.verbatim text] ↔
      node.negation.join = none ∧ node.conditions.clauses = [.verbatim text] := by
    rw [Node.others, filterMap_id_cons, filterMap_id_cons, List.filterMap_nil, List.append_nil,
      ← Clause.chain_eq_verbatim_iff .conjunction node.conditions.clauses]
    cases node.negation.join with
    | none => cases Clause.chain .conjunction node.conditions.clauses <;> simp
    | some inner => simp
  have whole : node.clause? false = some (.verbatim text) ↔
      node.combined = [] ∧ node.others = [.verbatim text] := by
    refine (Clause.chain_eq_verbatim_iff _ _ text).trans ?_
    cases node.combined with
    | nil => simp
    | cons first rest => simp
  rw [whole, others, Conditions.clauses_eq_verbatim_iff, clause?_withoutRaw_eq_none_iff]
  constructor
  · rintro ⟨combined, negation, conditions, found, visible⟩
    exact ⟨⟨combined, negation, conditions⟩, found, visible⟩
  · rintro ⟨⟨combined, negation, conditions⟩, found, visible⟩
    exact ⟨combined, negation, conditions, found, visible⟩

end Node

namespace Expression

/-- This is the raw text of an expression that asks for nothing else. -/
def rawAlone? : Expression → Option String
  | .raw text => some text
  | .node parts =>
    if (clause? (.node parts.withoutRaw)).isNone then parts.conditions.rawQuery else none

/-- An expression gives a raw text exactly when it asks for nothing else. -/
theorem clause?_eq_verbatim_iff (expression : Expression) (text : String) :
    expression.clause? = some (.verbatim text) ↔
      expression.rawAlone? = some text ∧ Text.isBlank text.toList = false := by
  cases expression with
  | raw written =>
    refine (Clause.ofText?_eq_verbatim_iff written text).trans ?_
    rw [rawAlone?, Option.some.injEq]
  | node parts =>
    rw [clause?_node, Node.clause?_eq_verbatim_iff, rawAlone?, clause?_node]
    show _ ↔ (if ((parts.map clause?).withoutRaw.clause? false).isNone then _ else _) = _ ∧ _
    cases (parts.map clause?).withoutRaw.clause? false with
    | none => simp [Node.map]
    | some clause => simp

/-- An expression inside another one has the clause that it has alone, perhaps in parentheses. -/
theorem clause?_of_rootClause? {expression : Expression} {root : Clause}
    (alone : expression.rootClause? = some root) :
    expression.clause? = some root ∨ expression.clause? = some (.grouped root) := by
  cases expression with
  | raw text => exact .inl alone
  | node parts =>
    rw [clause?_node, Node.clause?]
    rw [rootClause?, Node.clause?] at alone
    unfold Emission.assemble at alone ⊢
    split at alone
    · next only single =>
      cases alone
      rcases List.append_eq_singleton_iff.mp single with ⟨combined, others⟩ | ⟨combined, others⟩
      · rw [combined, others]
        exact .inl rfl
      · rw [combined, others]
        exact .inr rfl
    · exact .inl alone

end Expression

end FileSearch
