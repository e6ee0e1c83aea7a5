/-
This file shows that parentheses hide the operators between the parts of a query: a chain of closed
texts has an operator outside all parentheses only where it is a single text that has one.
-/

import FileSearch.Proofs.Compile.Balance

namespace FileSearch

namespace Text

open ScanState

variable {state last : ScanState} {text : List Char}

/-- Nothing is found inside parentheses, however deep the text itself goes. -/
theorem hasOperatorFrom_deeper (runs : state.runStrictly? text = some last) (levels : Nat)
    (rest : List Char) :
    hasOperatorFrom (state.deeper (levels + 1)) (text ++ rest) =
      hasOperatorFrom (last.deeper (levels + 1)) rest := by
  induction text generalizing state with
  | nil =>
    cases runs
    rfl
  | cons character text inductionHypothesis =>
    rw [runStrictly?_cons_eq_some_iff] at runs
    have inside : (state.deeper (levels + 1) == start) = false := by
      rw [beq_eq_false_iff_ne, ne_eq, deeper_eq_start_iff]
      exact fun surface => Nat.succ_ne_zero levels surface.2
    rw [List.cons_append, hasOperatorFrom, inside, Bool.false_and, Bool.false_or,
      step_deeper runs.1, inductionHypothesis runs.2]

/-- A closed text in parentheses shows no operator. -/
theorem hasTopLevelOperator_bracket (balanced : Balanced text) :
    hasTopLevelOperator ("(".toList ++ (text ++ ")".toList)) = false :=
  hasOperatorFrom_deeper balanced 0 ")".toList

/-- A keyword behind a closed text is found. -/
theorem hasOperatorFrom_separator (runs : state.runStrictly? text = some start)
    (connective : Connective) (rest : List Char) :
    hasOperatorFrom state (text ++ (connective.separator ++ rest)) = true := by
  induction text generalizing state with
  | nil =>
    cases runs
    cases connective <;> rfl
  | cons character text inductionHypothesis =>
    rw [runStrictly?_cons_eq_some_iff] at runs
    rw [List.cons_append, hasOperatorFrom, inductionHypothesis runs.2, Bool.or_true]

end Text

namespace Clause

open Text (Balanced hasTopLevelOperator)

/-- This function joins texts as they are, without parentheses; blank ones are left out. -/
def joinTexts (connective : Connective) (texts : List String) : String :=
  String.ofList (textOf (join connective (texts.filterMap ofText?)))

/-- The clauses of texts are those that are not blank. -/
theorem filterMap_ofText? (texts : List String) :
    texts.filterMap ofText? = (visible texts).map verbatim := by
  induction texts with
  | nil => rfl
  | cons text texts inductionHypothesis =>
    rw [visible, List.filterMap_cons, List.filter_cons, ofText?, inductionHypothesis]
    cases Text.isBlank text.toList <;> rfl

/-- The keyword behind the first part stands outside all parentheses. -/
theorem hasTopLevelOperator_join (connective : Connective) {parts : List Clause}
    (balanced : ∀ part ∈ parts, Balanced part.text) (several : 2 ≤ parts.length) :
    hasTopLevelOperator (textOf (join connective parts)) = true := by
  match parts with
  | [] => cases several
  | [only] => exact absurd several (Nat.not_succ_le_self 1)
  | first :: second :: others =>
    rw [textOf_join, joinedText, List.append_assoc]
    · exact Text.hasOperatorFrom_separator (balanced first List.mem_cons_self) connective _
    · exact List.cons_ne_nil second others

/-- Only a part that stands alone shows its operator. -/
theorem hasTopLevelOperator_chain (connective : Connective) {parts : List Clause}
    (balanced : ∀ part ∈ parts, Balanced part.text) :
    hasTopLevelOperator (textOf (chain connective parts)) = true ↔
      ∃ part, parts = [part] ∧ hasTopLevelOperator part.text = true := by
  match parts with
  | [] => exact iff_of_false Bool.false_ne_true fun ⟨_, single, _⟩ => nomatch single
  | [only] =>
    constructor
    · exact fun shows => ⟨only, rfl, shows⟩
    · rintro ⟨part, single, shows⟩
      cases single
      exact shows
  | first :: second :: others =>
    have hidden : hasTopLevelOperator (textOf (chain connective (first :: second :: others))) =
        false := Text.hasTopLevelOperator_bracket (balanced_joinedText connective balanced)
    rw [hidden]
    exact iff_of_false Bool.false_ne_true fun ⟨_, single, _⟩ => nomatch single

/-- The chain of closed texts is closed. It shows an operator exactly when a single text is left
that is not blank, and this text has one. A join of two or more such texts always shows one, and a
closed text in parentheses never does. -/
theorem chain_hides_operators (connective : Connective) {texts : List String}
    (balanced : ∀ text ∈ texts, Balanced text.toList) :
    Balanced (chainTexts connective texts).toList ∧
    (hasTopLevelOperator (chainTexts connective texts).toList = true ↔
      ∃ text, visible texts = [text] ∧ hasTopLevelOperator text.toList = true) ∧
    (2 ≤ (visible texts).length →
      hasTopLevelOperator (joinTexts connective texts).toList = true) ∧
    ∀ text, Balanced text → hasTopLevelOperator ("(".toList ++ (text ++ ")".toList)) = false := by
  have parts : ∀ part ∈ (visible texts).map verbatim, Balanced part.text := by
    rw [List.forall_mem_map]
    exact fun text member => balanced text (List.mem_of_mem_filter member)
  rw [chainTexts, joinTexts, String.toList_ofList, String.toList_ofList, filterMap_ofText?]
  refine ⟨balanced_textOf (kept_balanced.chain parts), ?_, ?_,
    fun text closed => Text.hasTopLevelOperator_bracket closed⟩
  · rw [hasTopLevelOperator_chain connective parts]
    simp only [List.map_eq_singleton_iff]
    constructor
    · rintro ⟨_, ⟨text, single, rfl⟩, shows⟩
      exact ⟨text, single, shows⟩
    · rintro ⟨text, single, shows⟩
      exact ⟨verbatim text, ⟨text, single, rfl⟩, shows⟩
  · intro several
    refine hasTopLevelOperator_join connective parts ?_
    rwa [List.length_map]

/-- These closed texts have an operator outside their parentheses. -/
def starredOrInside : String := "starred = true or ('a)' in parents)"

def trashedAndNamed : String := "trashed = true and name = 'x'"

/-- The chain with a blank text shows the operator, and the chain of both texts hides it. -/
theorem chain_hides_operators_starredOrInside :
    hasTopLevelOperator (chainTexts .conjunction [starredOrInside, "\t"]).toList = true ∧
      hasTopLevelOperator (chainTexts .conjunction [starredOrInside, trashedAndNamed]).toList =
        false ∧
      hasTopLevelOperator (joinTexts .conjunction [starredOrInside, trashedAndNamed]).toList =
        true := by
  have single := chain_hides_operators .conjunction
    (show ∀ text ∈ [starredOrInside, "\t"], Balanced text.toList by decide)
  have both := chain_hides_operators .conjunction
    (show ∀ text ∈ [starredOrInside, trashedAndNamed], Balanced text.toList by decide)
  refine ⟨single.2.1.mpr ⟨starredOrInside, by decide, by decide⟩, ?_, both.2.2.1 (by decide)⟩
  rw [Bool.eq_false_iff, ne_eq, both.2.1]
  rintro ⟨text, alone, _⟩
  have several : 2 ≤ (visible [starredOrInside, trashedAndNamed]).length := by decide
  rw [alone] at several
  exact Nat.not_succ_le_self 1 several

end Clause

end FileSearch
