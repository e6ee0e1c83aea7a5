/-
This file shows which query the text of a clause is read as. Only a raw text can bring a disjunction
that the clauses around it take apart.
-/

import FileSearch.Proofs.Clause.Shape
import FileSearch.Proofs.Clause.Traversal
import Mathlib.Data.List.Forall2

namespace FileSearch

open Text (Symbol)

namespace Query

theorem symbols_joinAll (connective : Connective) (first : Query) (others : List Query) :
    (joinAll connective first others).symbols =
      Symbol.joined connective ((first :: others).map Query.symbols) := by
  induction others generalizing first with
  | nil => rfl
  | cons second others inductionHypothesis =>
    rw [joinAll, symbols_join, inductionHypothesis]
    rfl

end Query

theorem Atom.faithful_symbols {condition : Atom} (plain : condition.Plain) :
    ∀ symbol ∈ condition.symbols, symbol.Faithful := by
  intro symbol member
  cases symbol with
  | plain character =>
    rintro rfl
    exact condition.noQuote_symbols member
  | literal value =>
    have found : value ∈ Symbol.literals condition.symbols :=
      List.mem_filterMap.mpr ⟨_, member, rfl⟩
    rw [literals_symbols, Option.mem_toList] at found
    obtain ⟨written, present, rfl⟩ := Option.map_eq_some_iff.mp found
    exact plain written present

namespace Clause

theorem parse?_atom {condition : Atom} (plain : condition.Plain) :
    Query.parse? (text (.atom condition)) = some (.ofFactor (.atom condition)) := by
  rw [Query.parse?_eq_some_iff, text_atom, ← condition.spell_symbols]
  exact Symbol.symbols?_spell (Atom.faithful_symbols plain)

variable {query : Query}

theorem parse?_grouped {inner : Clause} (read : Query.parse? inner.text = some query) :
    Query.parse? (text (.grouped inner)) = some (.ofFactor (.grouped query)) := by
  rw [Query.parse?_eq_some_iff] at read ⊢
  exact Text.symbols?_bracket "(".toList ")".toList (by decide) (by decide) read

theorem parse?_negated {inner : Clause} (read : Query.parse? inner.text = some query) :
    Query.parse? (text (.negated inner)) = some (.ofFactor (.negated query)) := by
  rw [Query.parse?_eq_some_iff] at read ⊢
  rw [text_negated]
  exact Text.symbols?_bracket "not (".toList ")".toList (by decide) (by decide) read

theorem symbols?_joinedText {parts : List Clause} {lists : List (List Symbol)}
    (connective : Connective)
    (read : List.Forall₂ (fun part symbols => Text.symbols? part.text = some symbols) parts lists) :
    Text.symbols? (joinedText connective parts) = some (Symbol.joined connective lists) := by
  induction read with
  | nil => rfl
  | cons first rest inductionHypothesis =>
    cases rest with
    | nil => exact first
    | cons second rest =>
      rw [joinedText, List.append_assoc, Text.symbols?_append first,
        Text.symbols?_word_append (Text.noQuote_separator connective), inductionHypothesis]
      · rfl
      · exact List.cons_ne_nil _ _

/-- Each of the clauses is read as its query. -/
def Read (clauses : List Clause) (queries : List Query) : Prop :=
  List.Forall₂ (fun clause query => Query.parse? clause.text = some query) clauses queries

theorem parse?_joined {parts : List Clause} {first : Query} {others : List Query}
    (connective : Connective) (read : Read parts (first :: others)) :
    Query.parse? (text (.joined connective parts)) = some (.joinAll connective first others) := by
  rw [Query.parse?_eq_some_iff, Query.symbols_joinAll, text_joined]
  refine symbols?_joinedText connective ?_
  rw [List.forall₂_map_right_iff]
  exact read.imp fun part query => Query.parse?_eq_some_iff.mp

/-- Such a clause is read as a query. -/
def Readable (clause : Clause) : Prop :=
  ∃ query, Query.parse? clause.text = some query

/-- Such a clause is read as a query that the same files satisfy. -/
def Meant (clause : Clause) : Prop :=
  ∃ query, Query.parse? clause.text = some query ∧ ∀ truth, query.holds truth = clause.holds truth

/-- No clause around such a clause takes it apart. -/
def Compact (clause : Clause) : Prop :=
  ∃ query, Query.parse? clause.text = some query ∧ query.isConjunction ∧
    ∀ truth, query.holds truth = clause.holds truth

instance : Nonempty Query :=
  ⟨.ofFactor (.atom (.marked .starred true))⟩

theorem read_map {parts : List Clause} {query : Clause → Query}
    (read : ∀ part ∈ parts, Query.parse? part.text = some (query part)) :
    Read parts (parts.map query) :=
  List.forall₂_map_right_iff.mpr (List.forall₂_same.mpr read)

theorem kept_readable : Kept Readable Readable where
  alone := id
  joined := by
    intro connective first others readable
    choose! query read using readable
    exact ⟨_, parse?_joined connective (read_map read)⟩
  grouped := by
    rintro clause ⟨query, read⟩
    exact ⟨_, parse?_grouped read⟩
  negated := by
    rintro clause ⟨query, read⟩
    exact ⟨_, parse?_negated read⟩

theorem holds_joinAll (connective : Connective) {first : Query} {others : List Query}
    (truth : Atom → Bool) (bind : ∀ query ∈ first :: others, query.isConjunction) :
    (Query.joinAll connective first others).holds truth =
      connective.holds ((first :: others).map (·.holds truth)) := by
  cases connective with
  | conjunction =>
    rw [Query.holds_joinAll_conjunction truth bind, Connective.holds, List.all_map]
    rfl
  | disjunction =>
    rw [Query.holds_joinAll_disjunction, Connective.holds, List.any_map]
    rfl

theorem meant_joined {connective : Connective} {first : Clause} {others : List Clause}
    (compact : ∀ clause ∈ first :: others, Compact clause) :
    Meant (.joined connective (first :: others)) := by
  choose! query read bind same using compact
  refine ⟨_, parse?_joined connective (read_map read), fun truth => ?_⟩
  have binds : ∀ found ∈ (first :: others).map query, found.isConjunction := by
    rw [List.forall_mem_map]
    exact bind
  have each : (first :: others).map (fun clause => (query clause).holds truth) =
      (first :: others).map (holds truth) :=
    List.map_congr_left fun clause member => same clause member truth
  rw [holds_joinAll connective truth binds, ← List.map_cons, List.map_map, holds, fold_joined]
  exact congrArg connective.holds each

theorem kept_meant : Kept Compact Meant where
  alone := by
    rintro clause ⟨query, read, _, same⟩
    exact ⟨query, read, same⟩
  joined := meant_joined
  grouped := by
    rintro clause ⟨query, read, same⟩
    exact ⟨_, parse?_grouped read, rfl, same⟩
  negated := by
    rintro clause ⟨query, read, same⟩
    exact ⟨_, parse?_negated read, rfl, fun truth => congrArg not (same truth)⟩

theorem compact_atom {condition : Atom} (plain : condition.Plain) : Compact (.atom condition) :=
  ⟨_, parse?_atom plain, rfl, fun _ => rfl⟩

end Clause

end FileSearch
