/-
This file shows that compiled expressions close their literals and their parentheses when their raw
texts do, with and without a scope.
-/

import FileSearch.Proofs.Compile.Scope
import FileSearch.Proofs.Text.Balance

namespace FileSearch

open Text (Balanced)

theorem Text.balanced_separator (connective : Connective) : Balanced connective.separator := by
  cases connective <;> decide

theorem Atom.balanced_text {condition : Atom} (plain : condition.Plain) :
    Balanced condition.text := by
  cases condition with
  | matching field value =>
    have literal := Balanced.literal (plain value rfl)
    cases field with
    | name => exact .append (by decide) literal
    | mimeType => exact .append (by decide) literal
    | fullText => exact .append (by decide) literal
    | parentId => exact .append literal (by decide)
    | owner => exact .append literal (by decide)
  | marked flag value => cases flag <;> cases value <;> decide
  | modifiedNotBefore bound => exact .append (by decide) (.literal (plain bound rfl))
  | modifiedBefore bound => exact .append (by decide) (.literal (plain bound rfl))

namespace Clause

theorem balanced_joinedText (connective : Connective) {parts : List Clause}
    (balanced : ∀ part ∈ parts, Balanced part.text) : Balanced (joinedText connective parts) := by
  match parts with
  | [] => rfl
  | [part] => exact balanced part List.mem_cons_self
  | part :: second :: rest =>
    rw [List.forall_mem_cons] at balanced
    have behind := balanced_joinedText connective balanced.2
    rw [joinedText]
    · exact (balanced.1.append (Text.balanced_separator connective)).append behind
    · exact List.cons_ne_nil second rest

/-- Every way to build a clause keeps its literals and parentheses closed. -/
theorem kept_balanced :
    Kept (fun clause => Balanced clause.text) (fun clause => Balanced clause.text) where
  alone := id
  joined := balanced_joinedText _
  grouped := Balanced.bracket
  negated := by
    intro inner balanced
    rw [text_negated]
    have word : Balanced "not ".toList := by decide
    exact word.append balanced.bracket

theorem balanced_textOf {clause : Option Clause}
    (balanced : ∀ found ∈ clause, Balanced found.text) : Balanced (textOf clause) := by
  cases clause with
  | none => rfl
  | some found => exact balanced found rfl

end Clause

/-- The cleanup starts and ends with a balanced text. -/
theorem Compiled.balanced_ofClause {clause : Option Clause}
    (balanced : Balanced (Clause.textOf clause)) (filters : Summary) :
    Balanced (ofClause clause filters).queryString.toList ∧
      ∀ repair ∈ (ofClause clause filters).repair, Balanced repair.before.toList := by
  constructor
  · rw [ofClause, String.toList_ofList]
    exact balanced.stripDangling
  · intro repair repaired
    rw [ofClause, Option.mem_def, Option.ite_none_left_eq_some] at repaired
    cases repaired.2
    rwa [String.toList_ofList]

namespace Scope

/-- A scope adds balanced clauses to a balanced query. -/
theorem balanced_apply {scope : Scope}
    (plainFolder : ∀ folder ∈ scope.folder, '\\' ∉ folder.toList) {text : String}
    (balanced : Balanced text.toList) (expression : Expression) :
    Balanced (scope.apply text expression).toList := by
  rw [toList_apply]
  apply Clause.balanced_textOf
  apply Clause.kept_balanced.join
  rw [parts, List.forall_mem_append]
  constructor
  · intro clause member
    split at member
    · cases member
    · rw [List.mem_singleton] at member
      rw [member, text_queryClause]
      split
      · exact balanced.bracket
      · exact balanced
  · intro clause member
    obtain ⟨condition, rfl, plain⟩ :=
      scope.exists_atom_of_mem_restrictions expression clause member
    exact Atom.balanced_text (plain plainFolder)

end Scope

namespace Expression

variable {expression : Expression} {compiled : Compiled}

theorem keeps_balanced (raw : ∀ text ∈ expression.rawTexts, Balanced text.toList)
    (plain : ∀ atom ∈ expression.atoms, atom.Plain) :
    Keeps (fun clause => Balanced clause.text) expression :=
  ⟨fun atom member => Atom.balanced_text (plain atom member), fun text member _ => raw text member⟩

/-- A compiled expression closes its literals and its parentheses, before and after dangling
keywords are removed and within every scope. -/
theorem compile_balanced (raw : ∀ text ∈ expression.rawTexts, Balanced text.toList)
    (plain : ∀ atom ∈ expression.atoms, atom.Plain)
    (compiles : expression.compile = .ok compiled) :
    Balanced compiled.queryString.toList ∧
      (∀ repair ∈ compiled.repair, Balanced repair.before.toList) ∧
      ∀ scope : Scope, (∀ folder ∈ scope.folder, '\\' ∉ folder.toList) →
        ∃ restricted, expression.compileWithin scope = .ok restricted ∧
          Balanced restricted.queryString.toList := by
  have query : Balanced compiled.queryString.toList ∧
      ∀ repair ∈ compiled.repair, Balanced repair.before.toList := by
    cases expression with
    | raw text =>
      cases compiles
      refine ⟨raw text List.mem_cons_self, ?_⟩
      rintro _ ⟨⟩
    | node parts =>
      obtain ⟨filters, rfl⟩ := eq_ofClause_of_compile compiles
      have root := (keeps_balanced raw plain).rootClause Clause.kept_balanced
      exact Compiled.balanced_ofClause (Clause.balanced_textOf root) filters
  refine ⟨query.1, query.2, fun scope plainFolder => ?_⟩
  exact ⟨_, compileWithin_of_compile scope compiles, Scope.balanced_apply plainFolder query.1 _⟩

/-- This node joins two raw texts with a keyword that dangles at each end. -/
def danglingRaws : Node Expression :=
  { Node.empty with
    conjuncts := some [.raw "or ('a)' in parents)", .raw "(trashed = true) and"] }

theorem compile_balanced_danglingRaws :
    ∃ compiled restricted, compile (.node danglingRaws) = .ok compiled ∧
      compileWithin (.ofFolder "it's (") (.node danglingRaws) = .ok restricted ∧
      Balanced compiled.queryString.toList ∧ Balanced restricted.queryString.toList := by
  have compiles := (compile_node danglingRaws).trans rfl
  have rawTexts : (node danglingRaws).rawTexts =
      ["or ('a)' in parents)", "(trashed = true) and"] := by decide
  have raw : ∀ text ∈ (node danglingRaws).rawTexts, Balanced text.toList := by
    rw [rawTexts]
    decide
  have plain : ∀ atom ∈ (node danglingRaws).atoms, atom.Plain := by
    rw [show (node danglingRaws).atoms = [] by decide]
    exact List.forall_mem_nil _
  have plainFolder : ∀ folder ∈ (Scope.ofFolder "it's (").folder, '\\' ∉ folder.toList := by
    rintro _ ⟨⟩
    decide
  obtain ⟨query, _, within⟩ := compile_balanced raw plain compiles
  obtain ⟨restricted, restricts, balanced⟩ := within (.ofFolder "it's (") plainFolder
  exact ⟨_, restricted, compiles, restricts, query, balanced⟩

end Expression

end FileSearch
