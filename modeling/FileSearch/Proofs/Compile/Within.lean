/-
This file shows which clauses a restricted expression joins, whatever its values hold, and what the
joined text demands once it is read as a query.
-/

import FileSearch.Proofs.Clause.Demand
import FileSearch.Proofs.Compile.Combinators
import FileSearch.Proofs.Compile.Scope

namespace FileSearch

open Text (Symbol)

namespace Clause

/-- A clause is put in parentheses where a restriction would bind to a part of it only. -/
def fenced (restricted : Bool) (clause : Clause) : Clause :=
  if restricted && Text.hasTopLevelOperator clause.text then .grouped clause else clause

variable {clause : Clause} {condition : Atom}

theorem text_fenced (restricted : Bool) (clause : Clause) :
    (clause.fenced restricted).text =
      (Scope.queryClause (String.ofList clause.text) restricted).text := by
  rw [Scope.text_queryClause, fenced, String.toList_ofList]
  split <;> rfl

theorem atoms_fenced (restricted : Bool) (clause : Clause) :
    (clause.fenced restricted).atoms = clause.atoms := by
  rw [fenced]
  split <;> rfl

/-- Where parentheses do no harm, a clause keeps what it is. -/
theorem fenced_of {part : Clause → Prop} (whole : part clause) (inside : part (.grouped clause))
    (restricted : Bool) : part (clause.fenced restricted) := by
  rw [fenced]
  split
  · exact inside
  · exact whole

theorem bound_fenced (readable : Readable clause) : Bound (clause.fenced true) := by
  obtain ⟨query, read⟩ := readable
  rw [fenced, Bool.true_and, Query.hasTopLevelOperator_of_parse? read]
  cases factor : query.isFactor with
  | true => exact ⟨query, read, Query.isConjunction_of_isFactor factor⟩
  | false => exact kept_bound.grouped ⟨query, read⟩

/-- The literals of a clause that is read as a query end at their own quotes. -/
theorem Laid.enclosed {query : Query} (laid : Laid clause)
    (read : Query.parse? clause.text = some query) (member : condition ∈ clause.atoms) :
    ∀ value ∈ Symbol.literals condition.symbols, Symbol.Enclosed value := by
  have enclosed :=
    Text.Written.enclosed laid (Query.parse?_eq_some_iff.mp read) query.noBackslash_symbols
  rw [literals_symbols] at enclosed
  exact fun value found => enclosed value (List.mem_flatMap.mpr ⟨condition, member, found⟩)

end Clause

namespace Expression

/-- Within a scope, such an expression is read as a query. -/
def MeansWithin (scope : Scope) (expression : Expression) (query : Query) : Prop :=
  ∃ compiled, expression.compileWithin scope = .ok compiled ∧
    Query.parse? compiled.queryString.toList = some query

/-- These are the clauses that a restricted expression joins. -/
def scopedClauses (scope : Scope) (expression : Expression) : List Clause :=
  expression.rootClause?.toList.map (Clause.fenced (!(scope.restrictions expression).isEmpty)) ++
    scope.restrictions expression

variable {scope : Scope} {expression : Expression} {query : Query}

theorem exists_compile (accepted : expression.violation? = none) :
    ∃ compiled, expression.compile = .ok compiled := by
  cases expression with
  | raw text => exact ⟨_, rfl⟩
  | node parts => exact ⟨_, (compile_node parts).trans (by rw [accepted])⟩

/-- A compiled expression has the text of its clause; without a clause it is blank. -/
theorem queryString_of_compile {compiled : Compiled}
    (framed : ∀ root ∈ expression.rootClause?, root.Framed)
    (compiles : expression.compile = .ok compiled) :
    (expression.rootClause? = none ∧ Text.isBlank compiled.queryString.toList = true) ∨
      ∃ root, expression.rootClause? = some root ∧
        compiled.queryString = String.ofList root.text := by
  cases expression with
  | raw text =>
    cases compiles
    rw [rootClause?, Clause.ofText?]
    cases blank : Text.isBlank text.toList with
    | true => exact .inl ⟨rfl, rfl⟩
    | false => exact .inr ⟨.verbatim text, rfl, String.ofList_toList.symm⟩
  | node parts =>
    obtain ⟨filters, rfl⟩ := eq_ofClause_of_compile compiles
    cases found : rootClause? (.node parts) with
    | none =>
      refine .inl ⟨rfl, ?_⟩
      rw [Compiled.queryString_ofClause_none]
      rfl
    | some root =>
      refine .inr ⟨root, rfl, ?_⟩
      rw [Compiled.ofClause, Clause.textOf, (framed root found).anchored.stripDangling]

/-- The text of a restricted expression is the one of its clauses. -/
theorem toList_compileWithin {compiled : Compiled}
    (framed : ∀ root ∈ expression.rootClause?, root.Framed)
    (compiles : expression.compileWithin scope = .ok compiled) :
    compiled.queryString.toList =
      Clause.textOf (Clause.join .conjunction (scopedClauses scope expression)) := by
  cases plain : expression.compile with
  | error violation =>
    rw [compileWithin, plain] at compiles
    cases compiles
  | ok alone =>
    rw [compileWithin_of_compile scope plain] at compiles
    cases compiles
    rw [scopedClauses, Clause.textOf_join]
    rcases queryString_of_compile framed plain with ⟨missing, blank⟩ | ⟨root, found, written⟩
    · rw [missing]
      exact Scope.toList_apply_of_blank blank expression
    · have visible : Text.isBlank alone.queryString.toList = false := by
        rw [written, String.toList_ofList]
        exact (framed root found).visible
      rw [Scope.toList_apply_of_visible visible, written, ← Clause.text_fenced, found]
      exact (Clause.joinedText_cons _ _ _).symm

theorem atoms_scopedClauses (scope : Scope) (expression : Expression) :
    (scopedClauses scope expression).flatMap Clause.atoms =
      expression.atoms ++ (scope.restrictions expression).flatMap Clause.atoms := by
  rw [scopedClauses, List.flatMap_append, List.flatMap_map, ← content_rootClause?, Clause.content]
  simp only [Clause.atoms_fenced]

section

variable (raw : expression.RawReadable)

include raw

theorem keeps_framed : Keeps Clause.Framed expression := by
  refine ⟨fun atom _ => Query.framed_atom atom, fun text member visible => ?_⟩
  obtain ⟨query, read⟩ := raw text member (Bool.of_not_eq_true visible)
  exact Clause.framed_verbatim read

theorem keeps_laid : Keeps Clause.Laid expression := by
  refine ⟨fun atom _ => atom.written_text, fun text member visible => ?_⟩
  obtain ⟨query, read⟩ := raw text member (Bool.of_not_eq_true visible)
  have written := Text.Written.of_closed (Query.closed_of_parse? read)
  rwa [← Symbol.literals_word text.toList] at written

theorem laid_scopedClauses : ∀ clause ∈ scopedClauses scope expression, clause.Laid := by
  rw [scopedClauses, List.forall_mem_append, List.forall_mem_map]
  constructor
  · intro root found
    have laid := (keeps_laid raw).rootClause Clause.kept_laid root (Option.mem_toList.mp found)
    exact Clause.fenced_of laid (Clause.kept_laid.grouped laid) _
  · intro clause member
    obtain ⟨condition, rfl, _⟩ := scope.exists_atom_of_mem_restrictions expression clause member
    exact condition.written_text

/-- Where a restricted expression is read as a query, each of its atoms is read as an atom. -/
theorem MeansWithin.exists_whole (means : MeansWithin scope expression query) :
    ∃ whole, Clause.join .conjunction (scopedClauses scope expression) = some whole ∧
      Query.parse? whole.text = some query ∧
      ∀ atom ∈ (scopedClauses scope expression).flatMap Clause.atoms,
        Clause.Bound (.atom atom) := by
  obtain ⟨compiled, compiles, read⟩ := means
  have framed := (keeps_framed raw).rootClause Clause.kept_framed
  rw [toList_compileWithin framed compiles] at read
  have content := Clause.content_join .conjunction (scopedClauses scope expression)
  cases joined : Clause.join .conjunction (scopedClauses scope expression) with
  | none =>
    rw [joined] at read
    cases Query.visible_of_parse? read
  | some whole =>
    rw [joined] at read content
    have laid := Clause.kept_laid.join (laid_scopedClauses raw) whole joined
    have atoms : whole.atoms = (scopedClauses scope expression).flatMap Clause.atoms :=
      (List.flatMap_singleton _ _).symm.trans content
    refine ⟨whole, rfl, read, fun atom member => ?_⟩
    rw [← atoms] at member
    exact Clause.bound_atom (laid.enclosed read member)

/-- Raw texts and atoms that are read as a part of a query are so inside any expression. -/
theorem MeansWithin.operands (means : MeansWithin scope expression query) :
    Keeps Clause.Operand expression := by
  obtain ⟨_, _, _, atoms⟩ := means.exists_whole raw
  rw [atoms_scopedClauses, List.forall_mem_append] at atoms
  exact keeps_operand raw atoms.1

theorem MeansWithin.bound_restrictions (means : MeansWithin scope expression query) :
    ∀ clause ∈ scope.restrictions expression, clause.Bound := by
  obtain ⟨_, _, _, atoms⟩ := means.exists_whole raw
  rw [atoms_scopedClauses, List.forall_mem_append] at atoms
  intro clause member
  obtain ⟨condition, rfl, _⟩ := scope.exists_atom_of_mem_restrictions expression clause member
  exact atoms.2 condition (List.mem_flatMap.mpr ⟨_, member, List.mem_cons_self⟩)

/-- What a clause of a restricted expression demands is demanded by the whole. -/
theorem MeansWithin.demanded {clause : Clause} {condition : Atom}
    (means : MeansWithin scope expression query)
    (bound : ∀ part ∈ scopedClauses scope expression, part.Bound)
    (member : clause ∈ scopedClauses scope expression) (demands : clause.Demands condition) :
    ∀ truth, query.holds truth → truth condition := by
  obtain ⟨whole, joined, read, _⟩ := means.exists_whole raw
  obtain ⟨found, same, reading, readFound, _, needed⟩ :=
    Clause.demands_join bound member demands
  obtain rfl := Option.some.inj (joined.symm.trans same)
  obtain rfl := Option.some.inj (read.symm.trans readFound)
  exact needed

end

/-- Within a scope, a query is satisfied by the files that satisfy it and are admitted. -/
theorem Means.within (means : expression.Means query)
    (plainFolder : ∀ folder ∈ scope.folder, '\\' ∉ folder.toList) :
    ∃ whole, MeansWithin scope expression whole ∧ ∀ truth, whole.holds truth =
      (query.holds truth &&
        (scope.admitsFolder truth && scope.admitsTrashed expression truth)) := by
  obtain ⟨compiled, compiles, read⟩ := means
  have reading := Query.reading?_of_parse? read
  have whole := Scope.reading?_apply plainFolder reading expression
  have visible : scope.apply compiled.queryString expression ≠ "" := by
    rw [ne_eq, Scope.apply_eq_empty_iff plainFolder reading]
    rintro ⟨empty, _⟩
    rw [empty] at read
    cases Query.visible_of_parse? read
  rw [Query.reading?, if_neg (fun empty => visible (String.toList_eq_nil_iff.mp empty)),
    Option.map_eq_some_iff] at whole
  obtain ⟨found, readWhole, same⟩ := whole
  exact ⟨found, ⟨_, compileWithin_of_compile scope compiles, readWhole⟩, congrFun same⟩

end Expression

end FileSearch
