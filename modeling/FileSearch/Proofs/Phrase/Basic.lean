/-
This file reads a text as words and parentheses, where any white space separates words. A text that
closes its literals and its parentheses has exactly one such reading.
-/

import FileSearch.Proofs.Text.Symbol

namespace FileSearch

open Text (Symbol)

/-- A token is a parenthesis, or a word between white space and parentheses. -/
inductive Token where
  | opening
  | closing
  | word (symbols : List Symbol)
  deriving DecidableEq

namespace Token

/-- A parenthesis ends a word and is a token of its own; white space ends a word and is none. -/
def between? : Symbol → Option (List Token)
  | .literal _ => none
  | .plain character =>
    if character = '(' then some [.opening]
    else if character = ')' then some [.closing]
    else if character ∈ [' ', '\t', '\n', '\r'] then some []
    else none

/-- A word that has been collected is a token, unless it is empty. -/
def collected (word : List Symbol) : List Token :=
  if word = [] then [] else [.word word]

/-- This function collects words. -/
def readFrom (word : List Symbol) : List Symbol → List Token
  | [] => collected word
  | symbol :: rest =>
    match between? symbol with
    | some tokens => collected word ++ (tokens ++ readFrom [] rest)
    | none => readFrom (word ++ [symbol]) rest

/-- These are the tokens of symbols. -/
def read (symbols : List Symbol) : List Token :=
  readFrom [] symbols

theorem readFrom_cons_of_between? {symbol : Symbol} {tokens : List Token}
    (ends : between? symbol = some tokens) (word rest : List Symbol) :
    readFrom word (symbol :: rest) = collected word ++ (tokens ++ read rest) := by
  rw [readFrom, ends]
  rfl

/-- Where a symbol ends every word, both sides are read apart. -/
theorem readFrom_append {symbol : Symbol} {tokens : List Token}
    (ends : between? symbol = some tokens) (word front back : List Symbol) :
    readFrom word (front ++ symbol :: back) = readFrom word front ++ (tokens ++ read back) := by
  induction front generalizing word with
  | nil => exact readFrom_cons_of_between? ends word back
  | cons first front inductionHypothesis =>
    rw [List.cons_append, readFrom, readFrom]
    cases between? first with
    | some others => rw [inductionHypothesis, List.append_assoc, List.append_assoc]
    | none => exact inductionHypothesis _

theorem read_append {symbol : Symbol} {tokens : List Token} (ends : between? symbol = some tokens)
    (front back : List Symbol) :
    read (front ++ symbol :: back) = read front ++ (tokens ++ read back) :=
  readFrom_append ends [] front back

end Token

/-- A phrase is a word, or phrases in parentheses. -/
inductive Phrase where
  | word (symbols : List Symbol)
  | group (inner : List Phrase)

namespace Phrase

mutual

/-- These are the tokens of a phrase. -/
def tokens : Phrase → List Token
  | .word symbols => [.word symbols]
  | .group inner => .opening :: (tokensOf inner ++ [.closing])

def tokensOf : List Phrase → List Token
  | [] => []
  | phrase :: rest => tokens phrase ++ tokensOf rest

end

theorem tokensOf_append (first second : List Phrase) :
    tokensOf (first ++ second) = tokensOf first ++ tokensOf second := by
  induction first with
  | nil => rfl
  | cons phrase rest inductionHypothesis =>
    rw [List.cons_append, tokensOf, tokensOf, inductionHypothesis, List.append_assoc]

/-- The innermost level comes first; each level holds the phrases that stand in its parentheses so
far. -/
abbrev Levels := List (List Phrase)

/-- An opening parenthesis starts a level, and a closing one ends it. -/
def step : Levels → Token → Option Levels
  | levels, .opening => some ([] :: levels)
  | level :: outer, .word symbols => some ((level ++ [.word symbols]) :: outer)
  | level :: next :: outer, .closing => some ((next ++ [.group level]) :: outer)
  | _, _ => none

/-- Phrases are read when all parentheses are closed at the end. -/
def ofTokens? (tokens : List Token) : Option (List Phrase) :=
  match tokens.foldlM step [[]] with
  | some [level] => some level
  | _ => none

mutual

/-- The tokens of a phrase add it to the innermost level. -/
theorem foldlM_tokens : (phrase : Phrase) → (level : List Phrase) → (outer : Levels) →
    phrase.tokens.foldlM step (level :: outer) = some ((level ++ [phrase]) :: outer)
  | .word symbols, level, outer => rfl
  | .group inner, level, outer => by
    rw [tokens, List.foldlM_cons, step, Option.bind_eq_bind, Option.bind_some, List.foldlM_append,
      foldlM_tokensOf inner [] (level :: outer)]
    rfl

theorem foldlM_tokensOf : (phrases : List Phrase) → (level : List Phrase) → (outer : Levels) →
    (tokensOf phrases).foldlM step (level :: outer) = some ((level ++ phrases) :: outer)
  | [], level, outer => by rw [List.append_nil]; rfl
  | phrase :: rest, level, outer => by
    rw [tokensOf, List.foldlM_append, foldlM_tokens phrase level outer, Option.bind_eq_bind,
      Option.bind_some, foldlM_tokensOf rest, List.append_assoc, List.singleton_append]

end

/-- These are the tokens that have led to the levels. -/
def tokensOfLevels : Levels → List Token
  | [] => []
  | [level] => tokensOf level
  | level :: outer => tokensOfLevels outer ++ (.opening :: tokensOf level)

theorem tokensOfLevels_cons (level : List Phrase) {outer : Levels} (nonempty : outer ≠ []) :
    tokensOfLevels (level :: outer) = tokensOfLevels outer ++ (.opening :: tokensOf level) := by
  cases outer with
  | nil => exact absurd rfl nonempty
  | cons next outer => rfl

theorem tokensOfLevels_append (level more : List Phrase) (outer : Levels) :
    tokensOfLevels ((level ++ more) :: outer) =
      tokensOfLevels (level :: outer) ++ tokensOf more := by
  by_cases empty : outer = []
  · rw [empty]
    exact tokensOf_append level more
  · rw [tokensOfLevels_cons _ empty, tokensOfLevels_cons _ empty, tokensOf_append,
      List.append_assoc, List.cons_append]

/-- A step spends its token. -/
theorem tokensOfLevels_step {levels next : Levels} {token : Token} (nonempty : levels ≠ [])
    (steps : step levels token = some next) :
    next ≠ [] ∧ tokensOfLevels next = tokensOfLevels levels ++ [token] := by
  cases token with
  | opening =>
    cases steps
    exact ⟨List.cons_ne_nil _ _, tokensOfLevels_cons [] nonempty⟩
  | word symbols =>
    cases levels with
    | nil => cases steps
    | cons level outer =>
      cases steps
      exact ⟨List.cons_ne_nil _ _, tokensOfLevels_append level [.word symbols] outer⟩
  | closing =>
    match levels with
    | [] => cases steps
    | [level] => cases steps
    | level :: next :: outer =>
      cases steps
      refine ⟨List.cons_ne_nil _ _, ?_⟩
      have single : tokensOf [.group level] = .opening :: (tokensOf level ++ [.closing]) :=
        List.append_nil _
      rw [tokensOfLevels_append, single, tokensOfLevels_cons level (List.cons_ne_nil next outer),
        List.append_assoc, List.cons_append]

theorem tokensOfLevels_foldlM {tokens : List Token} {levels next : Levels}
    (nonempty : levels ≠ []) (read : tokens.foldlM step levels = some next) :
    next ≠ [] ∧ tokensOfLevels next = tokensOfLevels levels ++ tokens := by
  induction tokens generalizing levels with
  | nil =>
    cases read
    exact ⟨nonempty, (List.append_nil _).symm⟩
  | cons token rest inductionHypothesis =>
    rw [List.foldlM_cons, Option.bind_eq_bind, Option.bind_eq_some_iff] at read
    obtain ⟨middle, steps, read⟩ := read
    obtain ⟨kept, spent⟩ := tokensOfLevels_step nonempty steps
    obtain ⟨keptRest, spentRest⟩ := inductionHypothesis kept read
    refine ⟨keptRest, ?_⟩
    rw [spentRest, spent, List.append_assoc, List.singleton_append]

/-- The reading finds exactly the phrases whose tokens are given. -/
theorem ofTokens?_eq_some_iff {tokens : List Token} {phrases : List Phrase} :
    ofTokens? tokens = some phrases ↔ tokens = tokensOf phrases := by
  constructor
  · intro read
    rw [ofTokens?] at read
    split at read
    · next level found =>
      cases read
      exact (tokensOfLevels_foldlM (List.cons_ne_nil _ _) found).2.symm
    · cases read
  · rintro rfl
    rw [ofTokens?, foldlM_tokensOf phrases [] []]
    rfl

end Phrase

end FileSearch
