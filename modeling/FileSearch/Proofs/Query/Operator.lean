/-
This file shows that the search for an operator outside all parentheses and literals is exact on
queries: it finds one exactly when the query is more than a single factor.
-/

import FileSearch.Proofs.Query.Dangling

namespace FileSearch

open Text (Symbol ScanState Quoting)

namespace Text.Symbol

/-- The symbols go on with a keyword between two spaces. -/
def beginsOperator (symbols : List Symbol) : Bool :=
  Connective.all.any fun connective => (word connective.separator).isPrefixOf symbols

/-- This is the number of open parentheses behind a symbol. -/
def nest (depth : Nat) : Symbol → Nat
  | .plain character =>
    if character = '(' then depth + 1 else if character = ')' then depth - 1 else depth
  | .literal _ => depth

/-- This function looks for an operator outside all parentheses. -/
def hasOperatorFrom (depth : Nat) : List Symbol → Bool
  | [] => false
  | symbol :: rest =>
    (beginsOperator (symbol :: rest) && depth == 0) || hasOperatorFrom (symbol.nest depth) rest

/-- Characters outside all literals are symbols of their own, so that a prefix of the text is a
prefix of the symbols. -/
theorem isPrefixOf_word {front text : List Char} {symbols : List Symbol} (noQuote : '\'' ∉ front)
    (read : symbols? text = some symbols) :
    front.isPrefixOf text = (word front).isPrefixOf symbols := by
  induction front generalizing text symbols with
  | nil => rfl
  | cons character front inductionHypothesis =>
    rw [List.mem_cons, not_or] at noQuote
    cases text with
    | nil =>
      cases read
      rfl
    | cons next rest =>
      by_cases quote : next = '\''
      · subst quote
        have first := head?_of_symbols? read
        cases symbols with
        | nil => cases first
        | cons symbol later =>
          have edge : '\'' = symbol.edge := Option.some.inj first
          have otherCharacter : (character == '\'') = false :=
            beq_eq_false_iff_ne.mpr (Ne.symm noQuote.1)
          have otherSymbol : (plain character == symbol) = false := by
            refine beq_eq_false_iff_ne.mpr ?_
            rintro rfl
            exact noQuote.1 edge
          rw [word, List.map_cons, List.isPrefixOf_cons_cons, List.isPrefixOf_cons_cons,
            otherCharacter, otherSymbol, Bool.false_and, Bool.false_and]
      · rw [symbols?, readFrom?_plain quote, Option.map_eq_some_iff] at read
        obtain ⟨later, read, rfl⟩ := read
        have same : (plain character == plain next) = (character == next) := by
          rw [Bool.eq_iff_iff, beq_iff_eq, beq_iff_eq, plain.injEq]
        rw [word, List.map_cons, List.isPrefixOf_cons_cons, List.isPrefixOf_cons_cons, same,
          inductionHypothesis noQuote.2 read]
        rfl

theorem beginsOperator_of_symbols? {text : List Char} {symbols : List Symbol}
    (read : symbols? text = some symbols) : startsWithOperator text = beginsOperator symbols := by
  have conjunction := isPrefixOf_word (Text.noQuote_separator .conjunction) read
  have disjunction := isPrefixOf_word (Text.noQuote_separator .disjunction) read
  simp only [startsWithOperator, beginsOperator, Connective.all, List.any_cons, List.any_nil,
    conjunction, disjunction]

/-- An open literal counts no parentheses. -/
theorem step_of_open {quoting : Quoting} (opened : quoting ≠ .outside) (depth : Nat)
    (character : Char) :
    ScanState.step ⟨depth, quoting⟩ character = ⟨depth, quoting.step character⟩ := by
  cases quoting with
  | outside => exact absurd rfl opened
  | inside =>
    simp only [Quoting.step, ScanState.step]
    split_ifs <;> rfl
  | escaped => rfl

theorem step_plain {character : Char} (noQuote : character ≠ '\'') (depth : Nat) :
    ScanState.step ⟨depth, .outside⟩ character = ⟨nest depth (.plain character), .outside⟩ := by
  simp only [ScanState.step, noQuote, if_false, nest]
  split_ifs <;> rfl

/-- The search in a text is the search in its symbols; nothing is found inside a literal. -/
theorem hasOperatorFrom_of_readFrom? {text value : List Char} {symbols : List Symbol}
    {quoting : Quoting} (depth : Nat) (read : readFrom? quoting value text = some symbols) :
    Text.hasOperatorFrom ⟨depth, quoting⟩ text = hasOperatorFrom depth symbols := by
  induction text generalizing quoting value symbols depth with
  | nil =>
    by_cases outside : quoting = .outside
    · simp only [readFrom?, if_pos outside, Option.some.injEq] at read
      rw [← read]
      rfl
    · simp [readFrom?, outside] at read
  | cons character rest inductionHypothesis =>
    by_cases opened : quoting = .outside
    · subst opened
      rw [readFrom?_outside] at read
      by_cases quote : character = '\''
      · subst quote
        rw [symbols?, readFrom?_open] at read
        have noOperator : startsWithOperator ('\'' :: rest) = false := rfl
        rw [Text.hasOperatorFrom, noOperator, Bool.and_false, Bool.false_or]
        exact inductionHypothesis depth read
      · have begins := beginsOperator_of_symbols? read
        rw [symbols?, readFrom?_plain quote, Option.map_eq_some_iff] at read
        obtain ⟨later, read, rfl⟩ := read
        have atStart : (ScanState.mk depth .outside == ScanState.start) = (depth == 0) := by
          rw [Bool.eq_iff_iff, beq_iff_eq, beq_iff_eq, ScanState.start, ScanState.mk.injEq]
          exact and_iff_left rfl
        rw [Text.hasOperatorFrom, begins, atStart, step_plain quote,
          inductionHypothesis (nest depth (.plain character)) read, Bool.and_comm]
        rfl
    · rw [readFrom?_cons, Option.map_eq_some_iff] at read
      obtain ⟨later, read, rfl⟩ := read
      have within : (ScanState.mk depth quoting == ScanState.start) = false := by
        refine beq_eq_false_iff_ne.mpr ?_
        rintro ⟨⟩
        exact opened rfl
      rw [Text.hasOperatorFrom, within, Bool.false_and, Bool.false_or, step_of_open opened,
        inductionHypothesis depth read]
      by_cases closes : quoting.step character = .outside
      · rw [closes, ended?_closing opened]
        rfl
      · rw [ended?_open opened closes]
        rfl

/-- Nothing is found inside parentheses. -/
theorem hasOperatorFrom_nested (depth : Nat) (symbol : Symbol) (rest : List Symbol) :
    hasOperatorFrom (depth + 1) (symbol :: rest) =
      hasOperatorFrom (symbol.nest (depth + 1)) rest := by
  rw [hasOperatorFrom]
  simp

theorem hasOperatorFrom_word {text : List Char} (noOpening : '(' ∉ text) (noClosing : ')' ∉ text)
    (depth : Nat) (rest : List Symbol) :
    hasOperatorFrom (depth + 1) (word text ++ rest) = hasOperatorFrom (depth + 1) rest := by
  induction text with
  | nil => rfl
  | cons character text inductionHypothesis =>
    rw [List.mem_cons, not_or] at noOpening noClosing
    have same : nest (depth + 1) (.plain character) = depth + 1 := by
      rw [nest, if_neg (Ne.symm noOpening.1), if_neg (Ne.symm noClosing.1)]
    rw [word, List.map_cons, List.cons_append, hasOperatorFrom_nested, same]
    exact inductionHypothesis noOpening.2 noClosing.2

theorem hasOperatorFrom_separator (depth : Nat) (connective : Connective) (rest : List Symbol) :
    hasOperatorFrom (depth + 1) (word connective.separator ++ rest) =
      hasOperatorFrom (depth + 1) rest := by
  cases connective with
  | conjunction => exact hasOperatorFrom_word (by decide) (by decide) depth rest
  | disjunction => exact hasOperatorFrom_word (by decide) (by decide) depth rest

theorem hasOperatorFrom_atom (depth : Nat) (atom : Atom) (rest : List Symbol) :
    hasOperatorFrom depth (atom.symbols ++ rest) = hasOperatorFrom depth rest := by
  cases atom with
  | matching field value => cases field <;> rfl
  | marked flag value => cases flag <;> cases value <;> rfl
  | modifiedNotBefore bound => rfl
  | modifiedBefore bound => rfl

end Text.Symbol

namespace Query

open Text.Symbol

mutual

/-- The search goes on behind a query in parentheses as it was in front of it. -/
theorem hasOperatorFrom_symbols : (query : Query) → (depth : Nat) → (rest : List Symbol) →
    hasOperatorFrom (depth + 1) (query.symbols ++ rest) = hasOperatorFrom (depth + 1) rest
  | .single conjunction, depth, rest => hasOperatorFrom_conjunction conjunction depth rest
  | .either first others, depth, rest => by
    rw [Query.symbols, List.append_assoc, hasOperatorFrom_conjunction first, List.append_assoc,
      hasOperatorFrom_separator, hasOperatorFrom_symbols others]

theorem hasOperatorFrom_conjunction : (conjunction : Conjunction) → (depth : Nat) →
    (rest : List Symbol) →
    hasOperatorFrom (depth + 1) (conjunction.symbols ++ rest) = hasOperatorFrom (depth + 1) rest
  | .single factor, depth, rest => hasOperatorFrom_factor factor (depth + 1) rest
  | .both first others, depth, rest => by
    rw [Conjunction.symbols, List.append_assoc, hasOperatorFrom_factor first, List.append_assoc,
      hasOperatorFrom_separator, hasOperatorFrom_conjunction others]

/-- No operator stands outside the parentheses of a factor. -/
theorem hasOperatorFrom_factor : (factor : Factor) → (depth : Nat) → (rest : List Symbol) →
    hasOperatorFrom depth (factor.symbols ++ rest) = hasOperatorFrom depth rest
  | .atom atom, depth, rest => hasOperatorFrom_atom depth atom rest
  | .grouped inner, depth, rest => by
    rw [Factor.symbols, List.append_assoc, List.append_assoc]
    exact hasOperatorFrom_symbols inner depth (Symbol.word ")".toList ++ rest)
  | .negated inner, depth, rest => by
    rw [Factor.symbols, List.append_assoc, List.append_assoc]
    exact hasOperatorFrom_symbols inner depth (Symbol.word ")".toList ++ rest)

end

/-- Such a query has no operator outside its parentheses. -/
def isFactor : Query → Bool
  | .single (.single _) => true
  | .single (.both _ _) => false
  | .either _ _ => false

/-- What a conjunction with an operator behind it begins with is a factor and an operator. -/
theorem hasOperatorFrom_join (first : Conjunction) (connective : Connective) (rest : List Symbol) :
    hasOperatorFrom 0 (first.symbols ++ (Symbol.word connective.separator ++ rest)) = true := by
  cases first with
  | single factor =>
    rw [Conjunction.symbols, hasOperatorFrom_factor]
    cases connective <;> rfl
  | both factor others =>
    rw [Conjunction.symbols, List.append_assoc, hasOperatorFrom_factor]
    rfl

/-- The search is exact on the texts that are read as queries. -/
theorem hasTopLevelOperator_of_parse? {text : List Char} {query : Query}
    (read : parse? text = some query) : Text.hasTopLevelOperator text = !query.isFactor := by
  have symbols := parse?_eq_some_iff.mp read
  refine (hasOperatorFrom_of_readFrom? 0 symbols).trans ?_
  cases query with
  | either first others => exact hasOperatorFrom_join first .disjunction others.symbols
  | single conjunction =>
    cases conjunction with
    | both first others =>
      exact hasOperatorFrom_join (.single first) .conjunction others.symbols
    | single factor =>
      have none := hasOperatorFrom_factor factor 0 []
      rwa [List.append_nil] at none

theorem isConjunction_of_isFactor {query : Query} (factor : query.isFactor) :
    query.isConjunction := by
  cases query with
  | single conjunction => rfl
  | either first others => cases factor

end Query

end FileSearch
