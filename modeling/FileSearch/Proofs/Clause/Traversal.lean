/-
This file reads clauses by one recursion: their symbols, their atoms and the files that satisfy
them.
-/

import FileSearch.Proofs.Query.Parser

namespace FileSearch

open Text (Symbol)

/-- This function combines the truth of conditions. -/
def Connective.holds : Connective → List Bool → Bool
  | .conjunction, parts => parts.all id
  | .disjunction, parts => parts.any id

/-- Nothing follows from no conditions. -/
def Connective.verdict? (connective : Connective) : List Bool → Option Bool
  | [] => none
  | parts => some (connective.holds parts)

/-- The connective stands between each two parts. -/
def Text.Symbol.joined (connective : Connective) : List (List Symbol) → List Symbol
  | [] => []
  | [part] => part
  | part :: rest => part ++ (word connective.separator ++ joined connective rest)

namespace Clause

section

variable {Result : Type} (atAtom : Atom → Result) (atVerbatim : String → Result)
  (atJoined : Connective → List Result → Result) (atGrouped atNegated : Result → Result)

mutual

/-- This function takes a step at each part of a clause, where the parts inside have been replaced
by their results. -/
def fold : Clause → Result
  | .atom condition => atAtom condition
  | .verbatim text => atVerbatim text
  | .joined connective parts => atJoined connective (foldList parts)
  | .grouped inner => atGrouped (fold inner)
  | .negated inner => atNegated (fold inner)

def foldList : List Clause → List Result
  | [] => []
  | part :: rest => fold part :: foldList rest

end

theorem foldList_eq_map (parts : List Clause) :
    foldList atAtom atVerbatim atJoined atGrouped atNegated parts =
      parts.map (fold atAtom atVerbatim atJoined atGrouped atNegated) := by
  induction parts with
  | nil => rfl
  | cons part rest inductionHypothesis => rw [foldList, inductionHypothesis, List.map_cons]

@[simp]
theorem fold_joined (connective : Connective) (parts : List Clause) :
    fold atAtom atVerbatim atJoined atGrouped atNegated (.joined connective parts) =
      atJoined connective (parts.map (fold atAtom atVerbatim atJoined atGrouped atNegated)) := by
  rw [fold, foldList_eq_map]

end

section

variable {motive : Clause → Prop} (atAtom : ∀ condition, motive (.atom condition))
  (atVerbatim : ∀ text, motive (.verbatim text))
  (atJoined : ∀ connective parts, (∀ part ∈ parts, motive part) →
    motive (.joined connective parts))
  (atGrouped : ∀ inner, motive inner → motive (.grouped inner))
  (atNegated : ∀ inner, motive inner → motive (.negated inner))

include atAtom atVerbatim atJoined atGrouped atNegated

set_option linter.unusedSectionVars false

mutual

/-- A property holds of all clauses when each clause passes it on from its parts. -/
@[elab_as_elim]
theorem induct : (clause : Clause) → motive clause
  | .atom condition => atAtom condition
  | .verbatim text => atVerbatim text
  | .joined connective parts => atJoined connective parts (inductList parts)
  | .grouped inner => atGrouped inner (induct inner)
  | .negated inner => atNegated inner (induct inner)

theorem inductList : (parts : List Clause) → ∀ part ∈ parts, motive part
  | [] => List.forall_mem_nil _
  | part :: rest => List.forall_mem_cons.mpr ⟨induct part, inductList rest⟩

end

end

/-- These are the symbols of a clause where all quotes stand around its literals. -/
def symbols : Clause → List Symbol :=
  fold Atom.symbols (fun text => Symbol.word text.toList) Symbol.joined
    (fun inner => Symbol.word "(".toList ++ (inner ++ Symbol.word ")".toList))
    (fun inner => Symbol.word "not (".toList ++ (inner ++ Symbol.word ")".toList))

/-- These are the atoms of a clause in their order; a raw text hides its own. -/
def atoms : Clause → List Atom :=
  fold ([·]) (fun _ => []) (fun _ parts => parts.flatten) id id

/-- A file satisfies a clause by the atoms that are true of it. A raw text is taken for the query
that it is read as. -/
def holds (truth : Atom → Bool) : Clause → Bool :=
  fold truth (fun text => (Query.parse? text.toList).any (·.holds truth)) Connective.holds id not

end Clause

namespace Text.Symbol

theorem literals_joined (connective : Connective) (parts : List (List Symbol)) :
    literals (joined connective parts) = parts.flatMap literals := by
  match parts with
  | [] => rfl
  | [part] => simp [joined]
  | part :: second :: rest =>
    rw [joined, literals_append, literals_append, literals_word, List.nil_append,
      literals_joined connective (second :: rest), ← List.flatMap_cons]
    simp

theorem spell_bracket (front back : List Char) (inner : List Symbol) :
    spell (word front ++ (inner ++ word back)) = front ++ (spell inner ++ back) := by
  rw [spell_append, spell_append, spell_word, spell_word]

theorem literals_bracket (front back : List Char) (inner : List Symbol) :
    literals (word front ++ (inner ++ word back)) = literals inner := by
  rw [literals_append, literals_append, literals_word, literals_word, List.append_nil,
    List.nil_append]

end Text.Symbol

namespace Clause

theorem text_atom (condition : Atom) : text (.atom condition) = condition.text := rfl

theorem text_joined (connective : Connective) (parts : List Clause) :
    text (.joined connective parts) = joinedText connective parts := rfl

theorem text_grouped (inner : Clause) :
    text (.grouped inner) = "(".toList ++ (text inner ++ ")".toList) := rfl

theorem text_negated (inner : Clause) :
    text (.negated inner) = "not (".toList ++ (text inner ++ ")".toList) :=
  List.append_assoc _ _ _

theorem joinedText_cons (connective : Connective) (first : Clause) (rest : List Clause) :
    joinedText connective (first :: rest) =
      first.text ++ rest.flatMap fun part => connective.separator ++ part.text := by
  induction rest generalizing first with
  | nil => exact (List.append_nil _).symm
  | cons second rest inductionHypothesis =>
    rw [joinedText, inductionHypothesis, List.flatMap_cons, List.append_assoc, List.append_assoc]
    exact List.cons_ne_nil second rest

theorem textOf_join (connective : Connective) (parts : List Clause) :
    textOf (join connective parts) = joinedText connective parts := by
  match parts with
  | [] => rfl
  | [part] => rfl
  | first :: second :: others => rfl

theorem spell_joined (connective : Connective) {parts : List Clause}
    (spells : ∀ part ∈ parts, Symbol.spell part.symbols = part.text) :
    Symbol.spell (Symbol.joined connective (parts.map symbols)) = joinedText connective parts := by
  match parts with
  | [] => rfl
  | [part] => exact spells part List.mem_cons_self
  | part :: second :: rest =>
    rw [List.forall_mem_cons] at spells
    have inductionHypothesis := spell_joined connective spells.2
    rw [List.map_cons] at inductionHypothesis
    rw [List.map_cons, List.map_cons, Symbol.joined, joinedText, Symbol.spell_append,
      Symbol.spell_append, Symbol.spell_word, spells.1, inductionHypothesis, List.append_assoc]
    · exact List.cons_ne_nil second rest
    · exact List.cons_ne_nil _ _

/-- The symbols write the text of a clause, whatever stands in it. -/
theorem spell_symbols (clause : Clause) : Symbol.spell clause.symbols = clause.text := by
  induction clause using induct with
  | atAtom condition => exact condition.spell_symbols
  | atVerbatim text => exact Symbol.spell_word _
  | atJoined connective parts inductionHypothesis =>
    rw [symbols, fold_joined]
    exact spell_joined connective inductionHypothesis
  | atGrouped inner inductionHypothesis =>
    rw [text_grouped, ← inductionHypothesis]
    exact Symbol.spell_bracket "(".toList ")".toList inner.symbols
  | atNegated inner inductionHypothesis =>
    rw [text_negated, ← inductionHypothesis]
    exact Symbol.spell_bracket "not (".toList ")".toList inner.symbols

/-- The literals of a clause are those of its atoms. -/
theorem literals_symbols (clause : Clause) :
    Symbol.literals clause.symbols =
      clause.atoms.flatMap fun condition => Symbol.literals condition.symbols := by
  induction clause using induct with
  | atAtom condition => exact (List.flatMap_singleton _ _).symm
  | atVerbatim text => exact Symbol.literals_word _
  | atJoined connective parts inductionHypothesis =>
    rw [symbols, fold_joined, Symbol.literals_joined, atoms, fold_joined, ← List.flatMap_def,
      List.flatMap_assoc, List.flatMap_map]
    exact List.flatMap_congr inductionHypothesis
  | atGrouped inner inductionHypothesis =>
    exact (Symbol.literals_bracket _ _ inner.symbols).trans inductionHypothesis
  | atNegated inner inductionHypothesis =>
    exact (Symbol.literals_bracket _ _ inner.symbols).trans inductionHypothesis

section

variable (connective : Connective) (parts : List Clause)

theorem join_eq_none_iff : join connective parts = none ↔ parts = [] := by
  match parts with
  | [] => exact iff_of_true rfl rfl
  | [only] => exact iff_of_false (Option.some_ne_none only) (List.cons_ne_nil only [])
  | first :: second :: others =>
    exact iff_of_false (Option.some_ne_none _) (List.cons_ne_nil first _)

/-- A chain differs from a join by parentheses only. -/
theorem map_chain {Result : Type} {convert : Clause → Result}
    (transparent : ∀ inner, convert (.grouped inner) = convert inner) :
    (chain connective parts).map convert = (join connective parts).map convert := by
  match parts with
  | [] => rfl
  | [part] => rfl
  | part :: second :: rest => exact congrArg some (transparent _)

theorem chain_eq_none_iff : chain connective parts = none ↔ parts = [] := by
  have transparent (inner : Clause) : Function.const Clause () (.grouped inner) =
      Function.const Clause () inner := rfl
  rw [← join_eq_none_iff connective, ← Option.map_eq_none_iff,
    map_chain connective parts transparent, Option.map_eq_none_iff]

variable (truth : Atom → Bool)

/-- A file satisfies joined clauses by the connective. -/
theorem holds_join : (join connective parts).map (holds truth) =
    connective.verdict? (parts.map (holds truth)) := by
  match parts with
  | [] => rfl
  | [part] => cases connective <;> simp [join, Connective.verdict?, Connective.holds]
  | part :: second :: rest => exact congrArg some (fold_joined _ _ _ _ _ connective _)

theorem holds_chain : (chain connective parts).map (holds truth) =
    connective.verdict? (parts.map (holds truth)) := by
  have transparent (inner : Clause) : holds truth (.grouped inner) = holds truth inner := rfl
  rw [map_chain connective parts transparent, holds_join]

end

end Clause

end FileSearch
