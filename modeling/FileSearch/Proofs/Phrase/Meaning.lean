/-
This file says which files satisfy phrases. The words for the connectives split them wherever they
stand outside parentheses, first at the disjunctions and then at the conjunctions.
-/

import FileSearch.Proofs.Phrase.Basic

namespace FileSearch

open Text (Symbol)

namespace Phrase

/-- This word is a connective. -/
def isKeyword (connective : Connective) : Phrase → Bool
  | .word symbols => symbols == Symbol.word connective.keyword
  | .group _ => false

def keyword (connective : Connective) : Phrase :=
  .word (Symbol.word connective.keyword)

theorem isKeyword_keyword (connective : Connective) :
    (keyword connective).isKeyword connective = true :=
  beq_self_eq_true _

/-- These phrases stand between the disjunctions. -/
def disjuncts (phrases : List Phrase) : List (List Phrase) :=
  phrases.splitOnP (isKeyword .disjunction)

/-- These phrases stand between the conjunctions. -/
def factors (phrases : List Phrase) : List (List Phrase) :=
  phrases.splitOnP (isKeyword .conjunction)

variable (truth : List Phrase → Bool)

/-- A factor in parentheses has the verdict of what stands inside. Any other factor is a condition
of its own, whatever words it has. -/
def judgeFactor : List (Phrase × Option Bool) → Bool
  | [(_, some verdict)] => verdict
  | factor => truth (factor.map Prod.fst)

/-- This function judges phrases, where those in parentheses have their verdicts already. -/
def judge (phrases : List (Phrase × Option Bool)) : Bool :=
  (phrases.splitOnP fun phrase => phrase.1.isKeyword .disjunction).any fun disjunct =>
    (disjunct.splitOnP fun phrase => phrase.1.isKeyword .conjunction).all (judgeFactor truth)

mutual

/-- A word has no verdict of its own. -/
def verdict? : Phrase → Option Bool
  | .word _ => none
  | .group inner => some (judge truth (verdicts inner))

def verdicts : List Phrase → List (Phrase × Option Bool)
  | [] => []
  | phrase :: rest => (phrase, verdict? phrase) :: verdicts rest

end

/-- A file satisfies phrases by the conditions that are true of it. -/
def holds (phrases : List Phrase) : Bool :=
  judge truth (verdicts truth phrases)

def factorHolds (factor : List Phrase) : Bool :=
  judgeFactor truth (verdicts truth factor)

def conjunctionHolds (phrases : List Phrase) : Bool :=
  (factors phrases).all (factorHolds truth)

theorem verdicts_eq_map (phrases : List Phrase) :
    verdicts truth phrases = phrases.map fun phrase => (phrase, verdict? truth phrase) := by
  induction phrases with
  | nil => rfl
  | cons phrase rest inductionHypothesis => rw [verdicts, inductionHypothesis, List.map_cons]

/-- Parentheses do not change what they hold. -/
theorem factorHolds_group (inner : List Phrase) :
    factorHolds truth [.group inner] = holds truth inner :=
  rfl

theorem splitOnP_map {First Second : Type} (convert : First → Second) (splits : Second → Bool)
    (list : List First) :
    (list.map convert).splitOnP splits =
      (list.splitOnP fun entry => splits (convert entry)).map (List.map convert) := by
  induction list with
  | nil => rfl
  | cons first rest inductionHypothesis =>
    rw [List.map_cons, List.splitOnP_cons_eq_if_modifyHead, List.splitOnP_cons_eq_if_modifyHead,
      inductionHypothesis]
    split
    · rfl
    · cases rest.splitOnP fun entry => splits (convert entry) <;> rfl

/-- Phrases hold when one of their disjuncts holds. -/
theorem holds_eq_any (phrases : List Phrase) :
    holds truth phrases = (disjuncts phrases).any (conjunctionHolds truth) := by
  rw [holds, judge, verdicts_eq_map, splitOnP_map, List.any_map]
  refine congrArg (List.any _) (funext fun disjunct => ?_)
  rw [Function.comp_apply, splitOnP_map, List.all_map, conjunctionHolds]
  refine congrArg (List.all _) (funext fun factor => ?_)
  rw [Function.comp_apply, ← verdicts_eq_map]
  rfl

theorem exists_disjuncts_append (phrases : List Phrase) {more : List Phrase}
    (tight : ∀ phrase ∈ more, phrase.isKeyword .disjunction = false) :
    ∃ front last, disjuncts phrases = front ++ [last] ∧
      disjuncts (phrases ++ more) = front ++ [last ++ more] := by
  induction phrases with
  | nil => exact ⟨[], [], rfl, List.splitOnP_eq_singleton tight⟩
  | cons phrase rest inductionHypothesis =>
    obtain ⟨front, last, split, splitMore⟩ := inductionHypothesis
    rw [disjuncts] at split splitMore
    rw [List.cons_append, disjuncts, disjuncts, List.splitOnP_cons_eq_if_modifyHead,
      List.splitOnP_cons_eq_if_modifyHead, split, splitMore]
    split
    · exact ⟨[] :: front, last, rfl, rfl⟩
    · cases front with
      | nil => exact ⟨[], phrase :: last, rfl, rfl⟩
      | cons first others => exact ⟨(phrase :: first) :: others, last, rfl, rfl⟩

/-- Appended phrases without a disjunction belong to the last disjunct. -/
theorem disjuncts_append {phrases more : List Phrase} {front : List (List Phrase)}
    {last : List Phrase} (tight : ∀ phrase ∈ more, phrase.isKeyword .disjunction = false)
    (split : disjuncts phrases = front ++ [last]) :
    disjuncts (phrases ++ more) = front ++ [last ++ more] := by
  obtain ⟨others, final, found, appended⟩ := exists_disjuncts_append phrases tight
  obtain ⟨rfl, single⟩ := List.append_inj' (found.symm.trans split) rfl
  cases single
  exact appended

theorem holds_of_split {phrases last : List Phrase} {front : List (List Phrase)}
    (split : disjuncts phrases = front ++ [last]) :
    holds truth phrases = (front.any (conjunctionHolds truth) || conjunctionHolds truth last) := by
  rw [holds_eq_any, split, List.any_append, List.any_cons, List.any_nil, Bool.or_false]

theorem conjunctionHolds_group (inner : List Phrase) :
    conjunctionHolds truth [.group inner] = holds truth inner := by
  have single : factors [.group inner] = [[.group inner]] := rfl
  rw [conjunctionHolds, single, List.all_cons, List.all_nil, Bool.and_true, factorHolds_group]

theorem conjunctionHolds_append (first second : List Phrase) :
    conjunctionHolds truth (first ++ keyword .conjunction :: second) =
      (conjunctionHolds truth first && conjunctionHolds truth second) := by
  rw [conjunctionHolds, factors, List.splitOnP_append_cons _ _ (isKeyword_keyword .conjunction),
    List.all_append]
  rfl

theorem holds_of_tight {phrases : List Phrase}
    (tight : ∀ phrase ∈ phrases, phrase.isKeyword .disjunction = false) :
    holds truth phrases = conjunctionHolds truth phrases := by
  rw [holds_eq_any, disjuncts, List.splitOnP_eq_singleton tight, List.any_cons, List.any_nil,
    Bool.or_false]

/-- A conjunct that is appended binds to the last disjunct only. -/
theorem holds_append {phrases more : List Phrase} {front : List (List Phrase)}
    {last : List Phrase} (tight : ∀ phrase ∈ more, phrase.isKeyword .disjunction = false)
    (split : disjuncts phrases = front ++ [last]) :
    holds truth (phrases ++ keyword .conjunction :: more) =
      (front.any (conjunctionHolds truth) ||
        (conjunctionHolds truth last && holds truth more)) := by
  have appended : ∀ phrase ∈ keyword .conjunction :: more,
      phrase.isKeyword .disjunction = false := by
    rw [List.forall_mem_cons]
    exact ⟨by decide, tight⟩
  rw [holds_of_split truth (disjuncts_append appended split), conjunctionHolds_append,
    holds_of_tight truth tight]

end Phrase

end FileSearch
