/-
This file shows that the query of an expression is satisfied by the files that satisfy the
expression.
-/

import FileSearch.Proofs.Clause.Reading
import FileSearch.Proofs.Emission
import FileSearch.Proofs.Expression.Content
import FileSearch.Proofs.Expression.Meaning
import FileSearch.Proofs.Query.Dangling

namespace FileSearch

namespace Compiled

theorem queryString_ofClause_none (filters : Summary) :
    (ofClause none filters).queryString = "" := by
  have nothing : Text.stripDangling [] = [] := by
    rw [Text.stripDangling]
    rfl
  rw [ofClause, Clause.textOf, nothing]

/-- A clause that is read as a query keeps its text. -/
theorem queryString_ofClause {clause : Clause} {query : Query}
    (read : Query.parse? clause.text = some query) (filters : Summary) :
    (ofClause (some clause) filters).queryString = String.ofList clause.text := by
  rw [ofClause, Clause.textOf, Query.stripDangling_of_parse? read]

end Compiled

namespace Expression

/-- An expression that is not refused is compiled to the text of its clause. -/
theorem eq_ofClause_of_compile {parts : Node Expression} {compiled : Compiled}
    (compiles : compile (.node parts) = .ok compiled) :
    ∃ filters, compiled = Compiled.ofClause (rootClause? (.node parts)) filters :=
  ⟨_, (compile_node_eq_ok_iff.mp compiles).2⟩

variable {expression : Expression} (noRaw : expression.rawTexts = [])
  (plain : ∀ atom ∈ expression.atoms, atom.Plain)

include noRaw

/-- Without raw texts a property is kept when all atoms keep it. -/
theorem keeps_of_atoms {part : Clause → Prop}
    (keep : ∀ atom ∈ expression.atoms, part (.atom atom)) : Keeps part expression := by
  refine ⟨keep, fun text member => ?_⟩
  rw [noRaw] at member
  cases member

include plain

/-- Without raw texts and backslashes each clause is read as a query that the same files satisfy. -/
theorem meant_rootClause : ∀ clause ∈ expression.rootClause?, clause.Meant :=
  (keeps_of_atoms noRaw fun atom member => Clause.compact_atom (plain atom member)).rootClause
    Clause.kept_meant

end Expression

/-- An expression without effective conditions gives the empty text. Any other one gives a query
that is satisfied by exactly the files that satisfy the expression. -/
theorem Expression.compile_preserves_meaning {parts : Node Expression} {compiled : Compiled}
    (noRaw : (node parts).rawTexts = []) (plain : ∀ atom ∈ (node parts).atoms, atom.Plain)
    (compiles : compile (.node parts) = .ok compiled) :
    ((node parts).atoms = [] ∧ compiled.queryString = "") ∨
      ((node parts).atoms ≠ [] ∧ ∃ query,
        Query.parse? compiled.queryString.toList = some query ∧
          ∀ truth, (node parts).verdict? truth = some (query.holds truth)) := by
  obtain ⟨filters, rfl⟩ := eq_ofClause_of_compile compiles
  cases found : rootClause? (.node parts) with
  | none =>
    refine .inl ⟨(rootClause?_eq_none_iff noRaw).mp found, ?_⟩
    exact Compiled.queryString_ofClause_none filters
  | some clause =>
    have effective : (node parts).atoms ≠ [] := by
      rw [ne_eq, ← rootClause?_eq_none_iff noRaw, found]
      exact Option.some_ne_none clause
    obtain ⟨query, read, same⟩ := meant_rootClause noRaw plain clause found
    refine .inr ⟨effective, query, ?_, fun truth => ?_⟩
    · rw [Compiled.queryString_ofClause read, String.toList_ofList]
      exact read
    · rw [← holds_rootClause?, found, Option.map_some, same]

/-- This node asks for a name that looks like a part of a query, or for no star, outside the
trash. -/
def Expression.quotedName : Node Expression :=
  { Node.empty with
    disjuncts := some [empty.setField .name (.plain "a' or (b"),
      empty.setNegation (empty.setFlag .starred (some true))]
    conditions :=
      { Conditions.none with flags := Conditions.none.flags.set .trashed (some false) } }

theorem Expression.compile_preserves_meaning_quotedName :
    ∃ compiled query, compile (.node quotedName) = .ok compiled ∧
      Query.parse? compiled.queryString.toList = some query ∧
      ∀ truth, (node quotedName).verdict? truth = some (query.holds truth) := by
  have compiles := (compile_node quotedName).trans rfl
  have atoms : (node quotedName).atoms =
      [.matching .name "a' or (b", .marked .starred true, .marked .trashed false] := by decide
  have plain : ∀ atom ∈ (node quotedName).atoms, atom.Plain := by
    rw [atoms]
    simp [Atom.Plain, Atom.literal?]
  obtain ⟨empty, _⟩ | ⟨_, query, read, same⟩ :=
    compile_preserves_meaning (by decide) plain compiles
  · rw [atoms] at empty
    cases empty
  · exact ⟨_, query, compiles, read, same⟩

end FileSearch
