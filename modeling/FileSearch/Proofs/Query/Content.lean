/-
This file lists the atoms of a query from left to right, and shows that the text of a clause is read
as a query with the atoms of the clause.
-/

import FileSearch.Proofs.Clause.Reading
import FileSearch.Proofs.Query.Dangling

namespace FileSearch

mutual

/-- These are the atoms of a query as its text has them, under any parentheses and negations. -/
def Query.atoms : Query → List Atom
  | .single conjunction => conjunction.atoms
  | .either first others => first.atoms ++ others.atoms

def Conjunction.atoms : Conjunction → List Atom
  | .single factor => factor.atoms
  | .both first others => first.atoms ++ others.atoms

def Factor.atoms : Factor → List Atom
  | .atom atom => [atom]
  | .grouped inner => inner.atoms
  | .negated inner => inner.atoms

end

theorem Conjunction.atoms_join : (first second : Conjunction) →
    (first.join second).atoms = first.atoms ++ second.atoms
  | .single factor, second => rfl
  | .both factor others, second => by
    rw [join, atoms, atoms_join others second, atoms, List.append_assoc]

namespace Query

theorem atoms_prepend (connective : Connective) (first : Conjunction) (second : Query) :
    (prepend connective first second).atoms = first.atoms ++ second.atoms := by
  cases connective with
  | disjunction => cases second <;> rfl
  | conjunction =>
    cases second with
    | single conjunction => exact first.atoms_join conjunction
    | either conjunction others =>
      rw [prepend, atoms, Conjunction.atoms_join, atoms, List.append_assoc]

theorem atoms_join (connective : Connective) : (first second : Query) →
    (first.join connective second).atoms = first.atoms ++ second.atoms
  | .single conjunction, second => atoms_prepend connective conjunction second
  | .either conjunction others, second => by
    rw [join, atoms, atoms_join connective others second, atoms, List.append_assoc]

theorem atoms_joinAll (connective : Connective) (first : Query) (others : List Query) :
    (joinAll connective first others).atoms = (first :: others).flatMap atoms := by
  induction others generalizing first with
  | nil => exact (List.flatMap_singleton _ _).symm
  | cons second others inductionHypothesis =>
    rw [joinAll, atoms_join, inductionHypothesis]
    rfl

/-- The empty text has no atoms. Any other one has those of the query that it is read as. -/
def content? (text : List Char) : Option (List Atom) :=
  if text = [] then some [] else (parse? text).map atoms

theorem content?_of_parse? {text : List Char} {query : Query} (read : parse? text = some query) :
    content? text = some query.atoms := by
  have nonempty : text ≠ [] := by
    rintro rfl
    cases visible_of_parse? read
  rw [content?, if_neg nonempty, read, Option.map_some]

end Query

namespace Clause

/-- Such a clause is read as a query with the same atoms. -/
def Listed (clause : Clause) : Prop :=
  ∃ query, Query.parse? clause.text = some query ∧ query.atoms = clause.atoms

theorem listed_joined {connective : Connective} {first : Clause} {others : List Clause}
    (listed : ∀ clause ∈ first :: others, Listed clause) :
    Listed (.joined connective (first :: others)) := by
  choose! query read same using listed
  refine ⟨_, parse?_joined connective (read_map read), ?_⟩
  have each : ((first :: others).map query).flatMap Query.atoms =
      (first :: others).flatMap atoms := by
    rw [List.flatMap_map]
    exact List.flatMap_congr same
  rw [Query.atoms_joinAll, ← List.map_cons, each, List.flatMap_def]
  exact (fold_joined _ _ _ _ _ connective _).symm

theorem kept_listed : Kept Listed Listed where
  alone := id
  joined := listed_joined
  grouped := by
    rintro clause ⟨query, read, same⟩
    exact ⟨_, parse?_grouped read, same⟩
  negated := by
    rintro clause ⟨query, read, same⟩
    exact ⟨_, parse?_negated read, same⟩

theorem listed_atom {condition : Atom} (plain : condition.Plain) : Listed (.atom condition) :=
  ⟨_, parse?_atom plain, rfl⟩

end Clause

end FileSearch
