/-
This file defines the queries that a search understands, the symbols that write them and the files
that satisfy them. A conjunction binds tighter than a disjunction.
-/

import FileSearch.Proofs.Query.Atom

namespace FileSearch

open Text (Symbol)

mutual

/-- A query is one conjunction, or a disjunction of two or more. -/
inductive Query where
  | single (conjunction : Conjunction)
  | either (first : Conjunction) (others : Query)

/-- A conjunction is one factor, or has two or more. -/
inductive Conjunction where
  | single (factor : Factor)
  | both (first : Factor) (others : Conjunction)

/-- A factor is an atom, or a query in parentheses, which can be negated. -/
inductive Factor where
  | atom (atom : Atom)
  | grouped (inner : Query)
  | negated (inner : Query)

end

mutual

/-- These are the symbols of a query; a keyword stands between two spaces. -/
def Query.symbols : Query → List Symbol
  | .single conjunction => conjunction.symbols
  | .either first others =>
    first.symbols ++ (Symbol.word Connective.disjunction.separator ++ others.symbols)

def Conjunction.symbols : Conjunction → List Symbol
  | .single factor => factor.symbols
  | .both first others =>
    first.symbols ++ (Symbol.word Connective.conjunction.separator ++ others.symbols)

def Factor.symbols : Factor → List Symbol
  | .atom atom => atom.symbols
  | .grouped inner => Symbol.word "(".toList ++ (inner.symbols ++ Symbol.word ")".toList)
  | .negated inner => Symbol.word "not (".toList ++ (inner.symbols ++ Symbol.word ")".toList)

end

mutual

/-- A file satisfies a query by the atoms that are true of it. -/
def Query.holds (truth : Atom → Bool) : Query → Bool
  | .single conjunction => conjunction.holds truth
  | .either first others => first.holds truth || others.holds truth

def Conjunction.holds (truth : Atom → Bool) : Conjunction → Bool
  | .single factor => factor.holds truth
  | .both first others => first.holds truth && others.holds truth

def Factor.holds (truth : Atom → Bool) : Factor → Bool
  | .atom atom => truth atom
  | .grouped inner => inner.holds truth
  | .negated inner => !inner.holds truth

end

/-- This function puts the conjunction between two conjunctions. -/
def Conjunction.join : Conjunction → Conjunction → Conjunction
  | .single factor, second => .both factor second
  | .both first others, second => .both first (others.join second)

namespace Query

/-- This query is a single factor. -/
def ofFactor (factor : Factor) : Query := .single (.single factor)

/-- This function puts a connective between a conjunction and a query. Of the query, the conjunction
takes only the first part. -/
def prepend (connective : Connective) (first : Conjunction) (second : Query) : Query :=
  match connective, second with
  | .disjunction, second => .either first second
  | .conjunction, .single conjunction => .single (first.join conjunction)
  | .conjunction, .either conjunction others => .either (first.join conjunction) others

/-- This is the query that two queries give with a connective between their texts. The conjunction
takes the last part of the first query and the first part of the second one. -/
def join (connective : Connective) : Query → Query → Query
  | .single conjunction, second => prepend connective conjunction second
  | .either first others, second => .either first (others.join connective second)

/-- This is the query that one or more queries give with a connective between each two texts. -/
def joinAll (connective : Connective) (first : Query) : List Query → Query
  | [] => first
  | second :: others => first.join connective (joinAll connective second others)

/-- No disjunction stands outside the parentheses of such a query. -/
def isConjunction : Query → Bool
  | .single _ => true
  | .either _ _ => false

end Query

namespace Conjunction

theorem symbols_join (first second : Conjunction) :
    (first.join second).symbols =
      first.symbols ++ (Symbol.word Connective.conjunction.separator ++ second.symbols) := by
  match first with
  | .single factor => rfl
  | .both factor others =>
    rw [join, symbols, symbols_join others second, symbols, List.append_assoc, List.append_assoc]

theorem holds_join (truth : Atom → Bool) (first second : Conjunction) :
    (first.join second).holds truth = (first.holds truth && second.holds truth) := by
  match first with
  | .single factor => rfl
  | .both factor others =>
    rw [join, holds, holds_join truth others second, holds, Bool.and_assoc]

end Conjunction

namespace Query

theorem symbols_prepend (connective : Connective) (first : Conjunction) (second : Query) :
    (prepend connective first second).symbols =
      first.symbols ++ (Symbol.word connective.separator ++ second.symbols) := by
  cases connective with
  | conjunction =>
    cases second with
    | single conjunction => exact first.symbols_join conjunction
    | either conjunction others =>
      simp only [prepend, symbols, Conjunction.symbols_join, List.append_assoc]
  | disjunction => cases second <;> rfl

theorem symbols_join (connective : Connective) (first second : Query) :
    (first.join connective second).symbols =
      first.symbols ++ (Symbol.word connective.separator ++ second.symbols) := by
  match first with
  | .single conjunction => exact symbols_prepend connective conjunction second
  | .either conjunction others =>
    rw [join, symbols, symbols_join connective others second, symbols, List.append_assoc,
      List.append_assoc]

theorem holds_join_disjunction (truth : Atom → Bool) (first second : Query) :
    (first.join .disjunction second).holds truth = (first.holds truth || second.holds truth) := by
  match first with
  | .single conjunction => cases second <;> rfl
  | .either conjunction others =>
    rw [join, holds, holds_join_disjunction truth others second, holds, Bool.or_assoc]

theorem holds_join_conjunction {first second : Query} (truth : Atom → Bool)
    (firstBinds : first.isConjunction) (secondBinds : second.isConjunction) :
    (first.join .conjunction second).holds truth = (first.holds truth && second.holds truth) := by
  cases first with
  | either conjunction others => cases firstBinds
  | single conjunction =>
    cases second with
    | either other others => cases secondBinds
    | single other => exact conjunction.holds_join truth other

theorem isConjunction_join {first second : Query} (firstBinds : first.isConjunction)
    (secondBinds : second.isConjunction) : (first.join .conjunction second).isConjunction := by
  cases first with
  | either conjunction others => cases firstBinds
  | single conjunction =>
    cases second with
    | either other others => cases secondBinds
    | single other => rfl

/-- A file that satisfies both queries satisfies what they give under the conjunction, wherever the
disjunctions stand. -/
theorem holds_join_of_holds {truth : Atom → Bool} (first : Query) {second : Query}
    (firstHolds : first.holds truth) (secondHolds : second.holds truth) :
    (first.join .conjunction second).holds truth := by
  match first with
  | .single conjunction =>
    have conjunctionHolds : conjunction.holds truth := firstHolds
    cases second with
    | single other =>
      have otherHolds : other.holds truth := secondHolds
      rw [join, prepend, holds, Conjunction.holds_join, conjunctionHolds, otherHolds]
      rfl
    | either other others =>
      rw [join, prepend, holds, Conjunction.holds_join, conjunctionHolds, Bool.true_and]
      exact secondHolds
  | .either conjunction others =>
    rw [join, holds, Bool.or_eq_true]
    rw [holds, Bool.or_eq_true] at firstHolds
    exact firstHolds.imp_right fun othersHold => holds_join_of_holds others othersHold secondHolds

/-- A conjunction without parentheses takes a disjunction apart, on the one side or on the other. -/
theorem holds_join_or_of_splits {truth : Atom → Bool} {first second : Query}
    (splits : first.isConjunction = false) (secondBinds : second.isConjunction)
    (holds : first.holds truth) :
    (first.join .conjunction second).holds truth = true ∨
      (second.join .conjunction first).holds truth = true := by
  cases first with
  | single conjunction => cases splits
  | either conjunction others =>
    cases second with
    | either other more => cases secondBinds
    | single other =>
      rw [Query.holds, Bool.or_eq_true] at holds
      rcases holds with start | rest
      · left
        rw [join, Query.holds, start, Bool.true_or]
      · right
        rw [join, prepend, Query.holds, rest, Bool.or_true]

theorem holds_joinAll_disjunction (truth : Atom → Bool) (first : Query) (others : List Query) :
    (joinAll .disjunction first others).holds truth =
      (first :: others).any (·.holds truth) := by
  induction others generalizing first with
  | nil => simp [joinAll]
  | cons second others inductionHypothesis =>
    rw [joinAll, holds_join_disjunction, inductionHypothesis]
    rfl

theorem isConjunction_joinAll {first : Query} {others : List Query}
    (bind : ∀ query ∈ first :: others, query.isConjunction) :
    (joinAll .conjunction first others).isConjunction := by
  induction others generalizing first with
  | nil => exact bind first List.mem_cons_self
  | cons second others inductionHypothesis =>
    rw [List.forall_mem_cons] at bind
    exact isConjunction_join bind.1 (inductionHypothesis bind.2)

theorem holds_joinAll_conjunction {first : Query} {others : List Query} (truth : Atom → Bool)
    (bind : ∀ query ∈ first :: others, query.isConjunction) :
    (joinAll .conjunction first others).holds truth = (first :: others).all (·.holds truth) := by
  induction others generalizing first with
  | nil => simp [joinAll]
  | cons second others inductionHypothesis =>
    rw [List.forall_mem_cons] at bind
    rw [joinAll, holds_join_conjunction truth bind.1 (isConjunction_joinAll bind.2),
      inductionHypothesis bind.2]
    rfl

theorem holds_joinAll_of_holds {truth : Atom → Bool} {first : Query} {others : List Query}
    (hold : ∀ query ∈ first :: others, query.holds truth) :
    (joinAll .conjunction first others).holds truth := by
  induction others generalizing first with
  | nil => exact hold first List.mem_cons_self
  | cons second others inductionHypothesis =>
    rw [List.forall_mem_cons] at hold
    exact holds_join_of_holds first hold.1 (inductionHypothesis hold.2)

end Query

end FileSearch
