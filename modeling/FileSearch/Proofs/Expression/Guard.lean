/-
This file shows when a flag that is reached through conjuncts is demanded of every file that
satisfies the clause of an expression. No raw text beside the conjuncts on the way may be taken
apart.
-/

import FileSearch.Proofs.Clause.Demand
import FileSearch.Proofs.Compile.Combinators
import FileSearch.Proofs.Expression.Conjuncts

namespace FileSearch

namespace Expression

/-- This expression has these conditions and nothing else. -/
def ofConditions (conditions : Conditions) : Expression :=
  .node { Node.empty with conditions := conditions }

/-- A node with the flag is reached through conjuncts, and nothing that is joined to it on the way
is a raw text with a disjunction outside its parentheses. -/
inductive Guarded (flag : Flag) (value : Bool) : Expression → Prop where
  | own {parts : Node Expression} (found : parts.conditions.flags.get flag = some value)
      (tight : ∀ text ∈ parts.conditions.rawQuery, ∀ query,
        Query.parse? text.toList = some query → query.isConjunction) :
      Guarded flag value (.node parts)
  | conjunct {parts : Node Expression} {child : Expression}
      (member : child ∈ parts.conjuncts.getD []) (guarded : Guarded flag value child)
      (tight : ∀ sibling ∈ parts.conjuncts.getD [], ¬ sibling.Loose)
      (tightConditions : ¬ (ofConditions parts.conditions).Loose) :
      Guarded flag value (.node parts)

variable {flag : Flag} {value : Bool} {expression : Expression}

/-- The node of a guarded flag is reached. -/
theorem Guarded.exists_reached (guarded : Guarded flag value expression) :
    ∃ parts, Reaches expression (.node parts) ∧ parts.conditions.flags.get flag = some value := by
  induction guarded with
  | own found _ => exact ⟨_, .self, found⟩
  | conjunct member _ _ _ inductionHypothesis =>
    obtain ⟨parts, reaches, found⟩ := inductionHypothesis
    exact ⟨parts, .conjunct member reaches, found⟩

theorem atoms_ofConditions (conditions : Conditions) :
    (ofConditions conditions).atoms = conditions.atoms := atoms_node _

theorem rawTexts_ofConditions (conditions : Conditions) :
    (ofConditions conditions).rawTexts = conditions.rawQuery.toList := rawTexts_node _

theorem clause?_ofConditions (conditions : Conditions) :
    (ofConditions conditions).clause? = Clause.chain .conjunction conditions.clauses := by
  show Emission.assemble false [] ([none, Clause.chain .conjunction conditions.clauses].filterMap
    id) = _
  cases Clause.chain .conjunction conditions.clauses <;> rfl

section

variable {parts : Node Expression} (operands : Keeps Clause.Operand (.node parts))

include operands

theorem operands_ofConditions : Keeps Clause.Operand (ofConditions parts.conditions) := by
  rw [Keeps, atoms_node, rawTexts_node] at operands
  rw [Keeps, atoms_ofConditions, rawTexts_ofConditions]
  exact ⟨fun atom member => operands.1 atom (List.mem_append_right _ member),
    fun text member => operands.2 text (List.mem_append_right _ member)⟩

theorem operands_clauses :
    ∀ child ∈ (parts.map clause?).children, ∀ clause ∈ child, clause.Operand := by
  rw [Node.children_map, List.forall_mem_map]
  exact fun child member => (operands.child child member).clause Clause.kept_operand

/-- What a part of a node demands is demanded by the node, alone and inside another expression. -/
theorem demands_clause? (atRoot : Bool) {condition : Atom} {clause : Clause}
    (bound : ∀ found ∈ Clause.chain .conjunction parts.conditions.clauses, found.Bound)
    (member : clause ∈ (parts.map clause?).combined ++ (parts.map clause?).others)
    (demands : clause.Demands condition) :
    ∃ whole, (parts.map clause?).clause? atRoot = some whole ∧ whole.Demands condition := by
  have inside := operands_clauses operands
  refine Clause.demands_assemble atRoot (Clause.kept_operand.combined inside) ?_ member demands
  refine forall_mem_filterMap_id ?_
  rw [List.forall_mem_cons, List.forall_mem_singleton]
  refine ⟨Clause.kept_bound.negation fun inner negated => ?_, bound⟩
  refine Clause.kept_operand.alone (inside (some inner) ?_ inner rfl)
  exact List.mem_append_right _ (Option.mem_toList.mpr (Option.join_eq_some_iff.mp negated))

/-- A node demands its own flags. -/
theorem demands_own (atRoot : Bool) (found : parts.conditions.flags.get flag = some value)
    (tight : ∀ text ∈ parts.conditions.rawQuery, ∀ query,
      Query.parse? text.toList = some query → query.isConjunction) :
    ∃ whole, (parts.map clause?).clause? atRoot = some whole ∧
      whole.Demands (.marked flag value) := by
  have keep := operands_ofConditions operands
  rw [Keeps, atoms_ofConditions, rawTexts_ofConditions] at keep
  have bound : ∀ clause ∈ parts.conditions.clauses, clause.Bound := by
    apply Clause.kept_bound.conditions
    · intro atom member
      obtain ⟨query, read, bind | ⟨text, verbatim⟩⟩ := keep.1 atom member
      · exact ⟨query, read, bind⟩
      · cases verbatim
    · intro text member visible
      obtain ⟨query, read, _⟩ := keep.2 text member visible
      exact ⟨query, read, tight text (Option.mem_toList.mp member) query read⟩
  have listed : Clause.atom (.marked flag value) ∈ parts.conditions.clauses := by
    refine List.mem_filterMap.mpr ⟨some (.atom (.marked flag value)), ?_, rfl⟩
    have flagged : some (Clause.atom (.marked flag value)) ∈ parts.conditions.flagClauses := by
      refine List.mem_map.mpr ⟨flag, flag.mem_all, ?_⟩
      rw [found]
      rfl
    rw [List.append_assoc, List.append_assoc]
    exact List.mem_append_left _ flagged
  have own : (Clause.atom (.marked flag value)).Demands (.marked flag value) :=
    Clause.demands_atom fun literal present => by cases present
  obtain ⟨chained, emitted, demands⟩ := Clause.demands_chain bound listed own
  refine demands_clause? operands atRoot (Clause.kept_bound.chain bound) ?_ demands
  refine List.mem_append_right _ (List.mem_filterMap.mpr ⟨some chained, ?_, rfl⟩)
  rw [← emitted]
  exact List.mem_cons_of_mem _ List.mem_cons_self

/-- A node demands what one of its conjuncts demands. -/
theorem demands_conjunct (atRoot : Bool) {condition : Atom} {child : Expression} {clause : Clause}
    (member : child ∈ parts.conjuncts.getD [])
    (tight : ∀ sibling ∈ parts.conjuncts.getD [], ¬ sibling.Loose)
    (tightConditions : ¬ (ofConditions parts.conditions).Loose)
    (inside : child.clause? = some clause) (demands : clause.Demands condition) :
    ∃ whole, (parts.map clause?).clause? atRoot = some whole ∧ whole.Demands condition := by
  have siblings : (parts.map clause?).conjuncts.getD [] =
      (parts.conjuncts.getD []).map clause? := by
    cases found : parts.conjuncts <;> simp [Node.map, found]
  have bound : ∀ found ∈ ((parts.conjuncts.getD []).map clause?).filterMap id, found.Bound := by
    refine forall_mem_filterMap_id ?_
    rw [List.forall_mem_map]
    intro sibling listed
    have keeps := operands.child sibling (mem_children_of_conjunct listed)
    exact bound_of_not_loose keeps (tight sibling listed)
  have listed : clause ∈ ((parts.conjuncts.getD []).map clause?).filterMap id := by
    refine List.mem_filterMap.mpr ⟨some clause, ?_, rfl⟩
    rw [← inside]
    exact List.mem_map_of_mem member
  obtain ⟨joined, emitted, demandsGroup⟩ := Clause.demands_join bound listed demands
  have conditions := bound_of_not_loose (operands_ofConditions operands) tightConditions
  rw [clause?_ofConditions] at conditions
  refine demands_clause? operands atRoot conditions ?_ demandsGroup
  refine List.mem_append_left _ (List.mem_filterMap.mpr ⟨some joined, ?_, rfl⟩)
  rw [← emitted, ← siblings]
  exact List.mem_cons_self

end

/-- A guarded flag is demanded by the clause of an expression inside another one. -/
theorem Guarded.demands (operands : Keeps Clause.Operand expression)
    (guarded : Guarded flag value expression) :
    ∃ clause, expression.clause? = some clause ∧ clause.Demands (.marked flag value) := by
  induction guarded with
  | own found tight =>
    rw [clause?_node]
    exact demands_own operands false found tight
  | conjunct member _ tight tightConditions inductionHypothesis =>
    obtain ⟨clause, inside, demands⟩ :=
      inductionHypothesis (operands.child _ (mem_children_of_conjunct member))
    rw [clause?_node]
    exact demands_conjunct operands false member tight tightConditions inside demands

/-- A guarded flag is demanded by the clause of an expression that stands alone. -/
theorem Guarded.demandsRoot (operands : Keeps Clause.Operand expression)
    (guarded : Guarded flag value expression) :
    ∃ root, expression.rootClause? = some root ∧ root.Demands (.marked flag value) := by
  cases guarded with
  | own found tight => exact demands_own operands true found tight
  | conjunct member guarded tight tightConditions =>
    obtain ⟨clause, inside, demands⟩ :=
      guarded.demands (operands.child _ (mem_children_of_conjunct member))
    exact demands_conjunct operands true member tight tightConditions inside demands

end Expression

end FileSearch
