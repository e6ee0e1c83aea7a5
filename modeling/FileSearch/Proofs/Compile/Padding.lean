/-
This file shows that parts which ask for nothing do not change what an expression is compiled to, in
any scope.
-/

import FileSearch.Proofs.Emission
import FileSearch.Proofs.Expression.Padding
import FileSearch.Scope

namespace FileSearch

theorem Scope.apply_congr (scope : Scope) (query : String) {first second : Expression}
    (same : first.constrainsTrashed = second.constrainsTrashed) :
    scope.apply query first = scope.apply query second := by
  rw [apply, apply, restrictions, restrictions, trashClause?, trashClause?, same]

namespace Expression

variable {parts padded : Node Expression}

theorem AlikeNodes.compile_eq (alike : AlikeNodes parts padded) :
    compile (.node padded) = compile (.node parts) := by
  have root : rootClause? (.node parts) = rootClause? (.node padded) := alike.clause true
  rw [compile_node, compile_node, root, alike.atoms, alike.violation]

theorem AlikeNodes.compileWithin_eq (alike : AlikeNodes parts padded) (scope : Scope) :
    compileWithin scope (.node padded) = compileWithin scope (.node parts) := by
  rw [compileWithin, compileWithin, alike.compile_eq]
  simp only [scope.apply_congr _ alike.trashed]

/-- A part that asks for nothing is invisible at any place and at any depth: the query, the summary
and the refusal of an expression stay the same, in every scope. -/
theorem compile_ignores_padding (pads : Padded parts padded) :
    compile (.node padded) = compile (.node parts) ∧
      ∀ scope, compileWithin scope (.node padded) = compileWithin scope (.node parts) :=
  ⟨pads.alike.compile_eq, pads.alike.compileWithin_eq⟩

/-- This node asks for a name that holds one of the values. -/
def named (values : List String) : Node Expression :=
  { Node.empty with
    conditions :=
      { Conditions.none with
        fields := Conditions.none.fields.set .name (some (.operator (.ofAny values))) } }

/-- This node asks for a star, or for a name that holds none of the values. -/
def starredOrUnnamed (values : List String) : Node Expression :=
  { Node.empty with
    disjuncts :=
      some [empty.setFlag .starred (some true), empty.setNegation (.node (named values))] }

theorem compile_ignores_padding_starredOrUnnamed :
    Padded (starredOrUnnamed ["draft", "old"]) (starredOrUnnamed ["draft", "\u3000", "old"]) ∧
      compile (.node (starredOrUnnamed ["draft", "\u3000", "old"])) =
        compile (.node (starredOrUnnamed ["draft", "old"])) ∧
      compileWithin (.ofFolder "inbox") (.node (starredOrUnnamed ["draft", "\u3000", "old"])) =
        compileWithin (.ofFolder "inbox") (.node (starredOrUnnamed ["draft", "old"])) := by
  have blank : Blank "\u3000" := by decide
  have values : (FieldOperator.ofAny ["draft", "old"]).Padded (.ofAny ["draft", "\u3000", "old"]) :=
    .anyOf rfl ⟨["draft"], "\u3000", ["old"], blank, rfl, rfl⟩
  have conditions : (named ["draft", "old"]).conditions.Padded
      (named ["draft", "\u3000", "old"]).conditions := .values .name rfl values
  have present : (starredOrUnnamed ["draft", "old"]).group .disjunction =
      some ([empty.setFlag .starred (some true)] ++ .node _ :: []) := rfl
  have pads : Padded (starredOrUnnamed ["draft", "old"])
      (starredOrUnnamed ["draft", "\u3000", "old"]) :=
    .insideGroup present (.insideNegation rfl (.conditions conditions))
  obtain ⟨same, within⟩ := compile_ignores_padding pads
  exact ⟨pads, same, within (.ofFolder "inbox")⟩

end Expression

end FileSearch
