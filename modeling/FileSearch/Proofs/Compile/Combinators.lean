/-
This file shows what the combinators make of their operands, where raw texts are operands too. A raw
text with a disjunction in it goes into a conjunction without parentheses, which takes it apart.
-/

import FileSearch.Proofs.Clause.Demand
import FileSearch.Proofs.Compile.Meaning
import FileSearch.Proofs.Expression.Operand

namespace FileSearch

namespace Clause

/-- Such a clause is read as a query that a conjunction does not take apart, or it is a raw text. -/
def Operand (clause : Clause) : Prop :=
  ∃ query, Query.parse? clause.text = some query ∧
    (query.isConjunction = true ∨ clause.IsVerbatim)

theorem kept_operand : Kept Operand Readable where
  alone := by
    rintro clause ⟨query, read, _⟩
    exact ⟨query, read⟩
  joined := by
    intro connective first others operands
    apply kept_readable.joined
    intro clause member
    obtain ⟨query, read, _⟩ := operands clause member
    exact ⟨query, read⟩
  grouped := by
    rintro clause ⟨query, read⟩
    exact ⟨_, parse?_grouped read, .inl rfl⟩
  negated := by
    rintro clause ⟨query, read⟩
    exact ⟨_, parse?_negated read, .inl rfl⟩

/-- Joined clauses are read as their queries joined. -/
theorem exists_join {connective : Connective} {clauses : List Clause} {first : Query}
    {others : List Query} (read : Read clauses (first :: others)) :
    ∃ clause, join connective clauses = some clause ∧
      Query.parse? clause.text = some (.joinAll connective first others) := by
  cases read with
  | @cons clause _ rest _ single more =>
    cases more with
    | nil => exact ⟨clause, rfl, single⟩
    | @cons second _ rest _ next more =>
      exact ⟨_, rfl, parse?_joined connective (.cons single (.cons next more))⟩

end Clause

namespace Expression

/-- Compiled alone, such an expression is read as a query. -/
def Means (expression : Expression) (query : Query) : Prop :=
  ∃ compiled, expression.compile = .ok compiled ∧
    Query.parse? compiled.queryString.toList = some query

/-- Each raw text of such an expression is a query, or it is blank. -/
def RawReadable (expression : Expression) : Prop :=
  ∀ text ∈ expression.rawTexts, Text.isBlank text.toList = false →
    ∃ query, Query.parse? text.toList = some query

/-- The raw texts of such an expression are queries, and its literals hold no backslash. -/
structure WellFormed (expression : Expression) : Prop where
  plain : ∀ atom ∈ expression.atoms, atom.Plain
  raw : ∀ text ∈ expression.rawTexts, Text.isBlank text.toList = false →
    ∃ query, Query.parse? text.toList = some query

/-- Such an expression is nothing but a raw text with a disjunction outside its parentheses. -/
def Loose (expression : Expression) : Prop :=
  ∃ text query, expression.rawAlone? = some text ∧ Query.parse? text.toList = some query ∧
    query.isConjunction = false

/-- Where the atoms stand their ground, each part of an expression is an operand. -/
theorem keeps_operand {expression : Expression} (raw : expression.RawReadable)
    (bound : ∀ atom ∈ expression.atoms, Clause.Bound (.atom atom)) :
    Keeps Clause.Operand expression := by
  constructor
  · intro atom member
    obtain ⟨query, read, bind⟩ := bound atom member
    exact ⟨query, read, .inl bind⟩
  · intro text member visible
    obtain ⟨query, read⟩ := raw text member (Bool.of_not_eq_true visible)
    exact ⟨query, read, .inr ⟨text, rfl⟩⟩

theorem WellFormed.operands {expression : Expression} (wellFormed : WellFormed expression) :
    Keeps Clause.Operand expression :=
  keeps_operand wellFormed.raw fun atom member =>
    (Clause.demands_atom (wellFormed.plain atom member)).bound

/-- An operand that is not loose stands its ground in every clause around it. -/
theorem bound_of_not_loose {expression : Expression}
    (operands : Keeps Clause.Operand expression) (tight : ¬ expression.Loose) :
    ∀ clause ∈ expression.clause?, clause.Bound := by
  intro clause inside
  obtain ⟨query, read, bind | ⟨text, verbatim⟩⟩ :=
    operands.clause Clause.kept_operand clause inside
  · exact ⟨query, read, bind⟩
  · subst verbatim
    obtain ⟨alone, _⟩ := (clause?_eq_verbatim_iff expression text).mp inside
    refine ⟨query, read, Bool.of_not_eq_false fun splits => tight ?_⟩
    exact ⟨text, query, alone, read, splits⟩

/-- The query of an expression is the one that its clause is read as. -/
theorem Means.exists_rootClause {expression : Expression} {query : Query}
    (means : expression.Means query) (wellFormed : expression.WellFormed) :
    ∃ root, expression.rootClause? = some root ∧ Query.parse? root.text = some query := by
  obtain ⟨compiled, compiles, read⟩ := means
  cases expression with
  | raw text =>
    cases compiles
    refine ⟨.verbatim text, ?_, read⟩
    exact (Clause.ofText?_eq_verbatim_iff text text).mpr ⟨rfl, Query.visible_of_parse? read⟩
  | node parts =>
    obtain ⟨filters, rfl⟩ := eq_ofClause_of_compile compiles
    cases found : rootClause? (.node parts) with
    | none =>
      rw [found, Compiled.queryString_ofClause_none] at read
      cases Query.visible_of_parse? read
    | some root =>
      obtain ⟨other, readable⟩ := wellFormed.operands.rootClause Clause.kept_operand root found
      rw [found, Compiled.queryString_ofClause readable, String.toList_ofList] at read
      exact ⟨root, rfl, read⟩

theorem Means.violation? {expression : Expression} {query : Query}
    (means : expression.Means query) : expression.violation? = none := by
  obtain ⟨compiled, compiles, _⟩ := means
  cases expression with
  | raw text => rfl
  | node parts => exact (compile_node_eq_ok_iff.mp compiles).1

theorem means_of_rootClause {parts : Node Expression} {clause : Clause} {query : Query}
    (accepted : violation? (.node parts) = none) (root : rootClause? (.node parts) = some clause)
    (read : Query.parse? clause.text = some query) : Means (.node parts) query := by
  refine ⟨_, (compile_node parts).trans (by rw [accepted]), ?_⟩
  rw [root, Compiled.queryString_ofClause read, String.toList_ofList]
  exact read

/-- Inside another expression an operand is read as a query that the same files satisfy. -/
theorem Means.operand {expression : Expression} {query : Query} (means : expression.Means query)
    (wellFormed : expression.WellFormed) :
    ∃ clause reading, expression.clause? = some clause ∧
      Query.parse? clause.text = some reading ∧
      (∀ truth, reading.holds truth = query.holds truth) ∧
      (¬ expression.Loose → reading.isConjunction = true) ∧
      (expression.Loose → reading = query) := by
  obtain ⟨root, alone, read⟩ := means.exists_rootClause wellFormed
  rcases clause?_of_rootClause? alone with inside | inside
  · refine ⟨root, query, inside, read, fun _ => rfl, fun tight => ?_, fun _ => rfl⟩
    obtain ⟨other, readOther, bind⟩ := bound_of_not_loose wellFormed.operands tight root inside
    rw [Option.some.inj (read.symm.trans readOther)]
    exact bind
  · refine ⟨.grouped root, .ofFactor (.grouped query), inside, Clause.parse?_grouped read,
      fun _ => rfl, fun _ => rfl, ?_⟩
    rintro ⟨text, other, single, readText, _⟩
    have visible := Query.visible_of_parse? readText
    have verbatim := (clause?_eq_verbatim_iff expression text).mpr ⟨single, visible⟩
    rw [inside] at verbatim
    cases verbatim

/-- The clauses of operands are read as queries that the same files satisfy. -/
theorem exists_operands {children : List Expression} {queries : List Query}
    (means : List.Forall₂ Means children queries)
    (wellFormed : ∀ child ∈ children, child.WellFormed) :
    ∃ clauses readings, (children.map clause?).filterMap id = clauses ∧
      Clause.Read clauses readings ∧
      (∀ truth, readings.map (·.holds truth) = queries.map (·.holds truth)) ∧
      ((∀ child ∈ children, ¬ child.Loose) → ∀ reading ∈ readings, reading.isConjunction) := by
  induction means with
  | nil => exact ⟨[], [], rfl, .nil, fun _ => rfl, fun _ => List.forall_mem_nil _⟩
  | cons first rest inductionHypothesis =>
    rw [List.forall_mem_cons] at wellFormed
    obtain ⟨clause, reading, inside, read, same, tight, _⟩ := first.operand wellFormed.1
    obtain ⟨clauses, readings, others, readOthers, sameOthers, tightOthers⟩ :=
      inductionHypothesis wellFormed.2
    refine ⟨clause :: clauses, reading :: readings, ?_, .cons read readOthers, ?_, ?_⟩
    · rw [List.map_cons, filterMap_id_cons, inside, others]
      rfl
    · intro truth
      rw [List.map_cons, List.map_cons, same, sameOthers]
    · intro tightChildren
      rw [List.forall_mem_cons] at tightChildren ⊢
      exact ⟨tight tightChildren.1, tightOthers tightChildren.2⟩

/-- This expression puts a connective between expressions. -/
def combine : Connective → List Expression → Expression
  | .conjunction, children => empty.setConjuncts children
  | .disjunction, children => empty.setDisjuncts children

theorem rootClause?_combine (connective : Connective) (children : List Expression) :
    (combine connective children).rootClause? =
      Clause.join connective ((children.map clause?).filterMap id) := by
  cases connective with
  | conjunction =>
    show Emission.assemble true
      ([Clause.join .conjunction ((children.map clause?).filterMap id), none].filterMap id) [] = _
    cases Clause.join .conjunction ((children.map clause?).filterMap id) <;> rfl
  | disjunction =>
    show Emission.assemble true
      ([none, Clause.join .disjunction ((children.map clause?).filterMap id)].filterMap id) [] = _
    cases Clause.join .disjunction ((children.map clause?).filterMap id) <;> rfl

/-- A combination is a node with no other parts. -/
theorem exists_node_combine (connective : Connective) (children : List Expression) :
    ∃ parts : Node Expression, combine connective children = .node parts ∧
      parts.children = children ∧ parts.conditions = Conditions.none := by
  cases connective with
  | conjunction => exact ⟨_, rfl, (List.append_nil _).trans (List.append_nil _), rfl⟩
  | disjunction => exact ⟨_, rfl, List.append_nil _, rfl⟩

theorem violation?_combine (connective : Connective) (children : List Expression) :
    (combine connective children).violation? = children.findSome? violation? := by
  obtain ⟨parts, node, same, none⟩ := exists_node_combine connective children
  rw [node, violation?_node, same, none]
  exact Option.or_none

/-- A combination is read as the queries of its operands joined. -/
theorem means_combine {connective : Connective} {children : List Expression}
    {clauses : List Clause} {first : Query} {others : List Query}
    (accepted : ∀ child ∈ children, child.violation? = none)
    (inside : (children.map clause?).filterMap id = clauses)
    (read : Clause.Read clauses (first :: others)) :
    (combine connective children).Means (.joinAll connective first others) := by
  have root := rootClause?_combine connective children
  have allowed : (combine connective children).violation? = none :=
    (violation?_combine connective children).trans (List.findSome?_eq_none_iff.mpr accepted)
  obtain ⟨clause, joined, whole⟩ := Clause.exists_join read
  rw [inside, joined] at root
  cases connective with
  | conjunction => exact means_of_rootClause allowed root whole
  | disjunction => exact means_of_rootClause allowed root whole

theorem rootClause?_setNegation (child : Expression) :
    (empty.setNegation child).rootClause? = child.clause?.map .negated := by
  show Emission.assemble true [] ([child.clause?.map .negated, none].filterMap id) = _
  cases child.clause? <;> rfl

theorem violation?_setNegation {child : Expression} (accepted : child.violation? = none) :
    (empty.setNegation child).violation? = none := by
  have inner : (empty.setNegation child).violation? =
      ([child].findSome? violation?).or Conditions.none.violation? := violation?_node _
  rw [inner, findSome?_cons_eq_or, accepted]
  rfl

theorem Means.accepted {children : List Expression} {queries : List Query}
    (means : List.Forall₂ Means children queries) :
    ∀ child ∈ children, child.violation? = none := by
  induction means with
  | nil => exact List.forall_mem_nil _
  | cons first rest inductionHypothesis =>
    exact List.forall_mem_cons.mpr ⟨first.violation?, inductionHypothesis⟩

/-- A negation is satisfied by the files that do not satisfy its operand. -/
theorem Means.setNegation {child : Expression} {query : Query} (means : child.Means query)
    (wellFormed : child.WellFormed) :
    ∃ negation, (empty.setNegation child).Means negation ∧
      ∀ truth, negation.holds truth = !query.holds truth := by
  obtain ⟨clause, reading, inside, read, same, _⟩ := means.operand wellFormed
  have root := rootClause?_setNegation child
  rw [inside] at root
  refine ⟨.ofFactor (.negated reading), ?_, fun truth => congrArg not (same truth)⟩
  exact means_of_rootClause (violation?_setNegation means.violation?) root
    (Clause.parse?_negated read)

/-- A negation is well-formed when its operand is. -/
theorem WellFormed.setNegation {child : Expression} (wellFormed : child.WellFormed) :
    (empty.setNegation child).WellFormed := by
  have atoms : (empty.setNegation child).atoms = child.atoms ++ [] ++ [] :=
    atoms_node _
  have rawTexts : (empty.setNegation child).rawTexts = child.rawTexts ++ [] ++ [] :=
    rawTexts_node _
  constructor
  · intro atom member
    apply wellFormed.plain atom
    rw [atoms] at member
    simpa using member
  · intro text member
    apply wellFormed.raw text
    rw [rawTexts] at member
    simpa using member

section

variable {children : List Expression} {queries : List Query} (nonempty : children ≠ [])
  (wellFormed : ∀ child ∈ children, child.WellFormed)
  (means : List.Forall₂ Means children queries)

include nonempty wellFormed means

/-- The queries of the operands of a combination have a first one. -/
theorem exists_combine (connective : Connective) :
    ∃ first others, (combine connective children).Means (.joinAll connective first others) ∧
      (∀ truth, (first :: others).map (·.holds truth) = queries.map (·.holds truth)) ∧
      ((∀ child ∈ children, ¬ child.Loose) →
        ∀ reading ∈ first :: others, reading.isConjunction) := by
  obtain ⟨clauses, readings, inside, read, same, tight⟩ := exists_operands means wellFormed
  cases readings with
  | nil =>
    cases means with
    | nil => exact absurd rfl nonempty
    | cons first rest => cases same fun _ => true
  | cons first others =>
    exact ⟨first, others, means_combine (Means.accepted means) inside read, same, tight⟩

theorem setDisjuncts_means : ∃ whole, (empty.setDisjuncts children).Means whole ∧
    ∀ truth, whole.holds truth = queries.any (·.holds truth) := by
  obtain ⟨first, others, combined, same, _⟩ :=
    exists_combine nonempty wellFormed means .disjunction
  refine ⟨_, combined, fun truth => ?_⟩
  have each := congrArg (List.any · id) (same truth)
  rw [List.any_map, List.any_map] at each
  rw [Query.holds_joinAll_disjunction]
  exact each

theorem setConjuncts_means : ∃ whole, (empty.setConjuncts children).Means whole ∧
    (∀ truth, (∀ query ∈ queries, query.holds truth) → whole.holds truth) ∧
    ((children.length = 1 ∨ ∀ child ∈ children, ¬ child.Loose) →
      ∀ truth, whole.holds truth = queries.all (·.holds truth)) := by
  obtain ⟨first, others, combined, same, tight⟩ :=
    exists_combine nonempty wellFormed means .conjunction
  refine ⟨_, combined, fun truth hold => ?_, fun safe truth => ?_⟩
  · apply Query.holds_joinAll_of_holds
    have each : ∀ verdict ∈ (first :: others).map (·.holds truth), verdict = true := by
      rw [same, List.forall_mem_map]
      exact hold
    exact List.forall_mem_map.mp each
  · have each := congrArg (List.all · id) (same truth)
    rw [List.all_map, List.all_map] at each
    refine Eq.trans ?_ each
    rcases safe with single | tightChildren
    · have lengths := congrArg List.length (same truth)
      rw [List.length_map, List.length_map, ← means.length_eq, single] at lengths
      obtain rfl : others = [] := List.length_eq_zero_iff.mp (Nat.succ.inj lengths)
      simp [Query.joinAll]
    · exact Query.holds_joinAll_conjunction truth (tight tightChildren)

end

/-- The query of a loose expression is the one of its raw text, which a disjunction splits. -/
theorem Means.splits {expression : Expression} {query : Query} (means : expression.Means query)
    (wellFormed : expression.WellFormed) (loose : expression.Loose) :
    query.isConjunction = false := by
  obtain ⟨clause, reading, inside, read, _, _, apart⟩ := means.operand wellFormed
  obtain ⟨text, disjunction, alone, readText, splits⟩ := loose
  have visible := Query.visible_of_parse? readText
  have verbatim := (clause?_eq_verbatim_iff expression text).mpr ⟨alone, visible⟩
  obtain rfl := Option.some.inj (inside.symm.trans verbatim)
  rw [← apart ⟨text, disjunction, alone, readText, splits⟩,
    Option.some.inj (read.symm.trans readText)]
  exact splits

/-- A negation is never a raw text, so it is not loose. -/
theorem not_loose_setNegation (child : Expression) : ¬ (empty.setNegation child).Loose := by
  rintro ⟨text, query, alone, _, _⟩
  have missing : (empty.setNegation child).rawAlone? = none := ite_self none
  rw [missing] at alone
  cases alone

/-- Two operands are joined without parentheses. -/
theorem means_setConjuncts_pair {first second : Expression} {clause other : Clause}
    {query reading : Query} (accepted : first.violation? = none)
    (acceptedOther : second.violation? = none) (inside : first.clause? = some clause)
    (insideOther : second.clause? = some other) (read : Query.parse? clause.text = some query)
    (readOther : Query.parse? other.text = some reading) :
    (empty.setConjuncts [first, second]).Means (query.join .conjunction reading) := by
  have both : ([first, second].map clause?).filterMap id = [clause, other] := by
    rw [List.map_cons, List.map_cons, List.map_nil, inside, insideOther]
    rfl
  have combined : (combine .conjunction [first, second]).Means
      (.joinAll .conjunction query [reading]) := by
    apply means_combine _ both (.cons read (.cons readOther .nil))
    rw [List.forall_mem_cons, List.forall_mem_singleton]
    exact ⟨accepted, acceptedOther⟩
  exact combined

/-- A conjunction takes a loose operand apart. With the negation of the operand behind it or in
front of it, the conjunction is satisfied by files although no file satisfies both. -/
theorem Means.taken_apart {child : Expression} {query : Query} (means : child.Means query)
    (wellFormed : child.WellFormed) (loose : child.Loose) :
    ∃ behind before, (empty.setConjuncts [child, empty.setNegation child]).Means behind ∧
      (empty.setConjuncts [empty.setNegation child, child]).Means before ∧
      ∀ truth, query.holds truth → behind.holds truth = true ∨ before.holds truth = true := by
  obtain ⟨negation, opposite, _⟩ := means.setNegation wellFormed
  obtain ⟨clause, reading, inside, read, _, _, apart⟩ := means.operand wellFormed
  obtain ⟨other, beside, insideOther, readOther, _, bind, _⟩ :=
    opposite.operand wellFormed.setNegation
  have binds := bind (not_loose_setNegation child)
  obtain rfl := apart loose
  refine ⟨_, _, means_setConjuncts_pair means.violation? opposite.violation? inside insideOther
      read readOther, means_setConjuncts_pair opposite.violation? means.violation? insideOther
      inside readOther read, fun truth holds => ?_⟩
  exact Query.holds_join_or_of_splits (means.splits wellFormed loose) binds holds

/-- The combinators compose the meanings of their operands, raw texts included. A conjunction of two
or more operands needs that none of them is loose: a loose operand can be taken apart. -/
theorem combinators_compose {children : List Expression} {queries : List Query}
    (nonempty : children ≠ []) (wellFormed : ∀ child ∈ children, child.WellFormed)
    (means : List.Forall₂ Means children queries) :
    (∃ whole, (empty.setDisjuncts children).Means whole ∧
      ∀ truth, whole.holds truth = queries.any (·.holds truth)) ∧
    (∃ whole, (empty.setConjuncts children).Means whole ∧
      (∀ truth, (∀ query ∈ queries, query.holds truth) → whole.holds truth) ∧
      ((children.length = 1 ∨ ∀ child ∈ children, ¬ child.Loose) →
        ∀ truth, whole.holds truth = queries.all (·.holds truth))) ∧
    (∀ child ∈ children, ∀ query, child.Means query →
      ∃ whole, (empty.setNegation child).Means whole ∧
        ∀ truth, whole.holds truth = !query.holds truth) ∧
    (∀ child ∈ children, child.Loose → ∀ query, child.Means query →
      ∃ behind before, (empty.setConjuncts [child, empty.setNegation child]).Means behind ∧
        (empty.setConjuncts [empty.setNegation child, child]).Means before ∧
        ∀ truth, query.holds truth → behind.holds truth = true ∨ before.holds truth = true) := by
  refine ⟨setDisjuncts_means nonempty wellFormed means,
    setConjuncts_means nonempty wellFormed means, ?_, ?_⟩
  · intro child member query single
    exact single.setNegation (wellFormed child member)
  · intro child member loose query single
    exact single.taken_apart (wellFormed child member) loose

/-- This raw text asks for a star or for the trash. -/
def starredOrTrashed : String := "starred = true or trashed = true"

theorem combinators_compose_starredOrTrashed :
    (∃ whole, (empty.setDisjuncts [.raw starredOrTrashed]).Means whole ∧
      ∀ truth, whole.holds truth =
        (truth (.marked .starred true) || truth (.marked .trashed true))) ∧
    ∃ behind before, (empty.setConjuncts [.raw starredOrTrashed,
        empty.setNegation (.raw starredOrTrashed)]).Means behind ∧
      (empty.setConjuncts [empty.setNegation (.raw starredOrTrashed),
        .raw starredOrTrashed]).Means before ∧
      ∀ truth, (truth (.marked .starred true) || truth (.marked .trashed true)) = true →
        behind.holds truth = true ∨ before.holds truth = true := by
  have read : Query.parse? starredOrTrashed.toList =
      some (.either (.single (.atom (.marked .starred true)))
        (.ofFactor (.atom (.marked .trashed true)))) :=
    Query.parse?_eq_some_iff.mpr rfl
  have means : (raw starredOrTrashed).Means _ := ⟨_, rfl, read⟩
  have wellFormed : (raw starredOrTrashed).WellFormed := by
    constructor
    · intro atom member
      cases member
    · intro text member _
      cases List.mem_singleton.mp member
      exact ⟨_, read⟩
  have loose : (raw starredOrTrashed).Loose := ⟨_, _, rfl, read, rfl⟩
  obtain ⟨disjunction, _, _, apart⟩ := combinators_compose (List.cons_ne_nil _ [])
    (List.forall_mem_singleton.mpr wellFormed) (.cons means .nil)
  refine ⟨?_, apart _ List.mem_cons_self loose _ means⟩
  obtain ⟨whole, combined, same⟩ := disjunction
  refine ⟨whole, combined, fun truth => (same truth).trans ?_⟩
  rw [List.any_cons, List.any_nil, Bool.or_false]
  rfl

end Expression

end FileSearch
