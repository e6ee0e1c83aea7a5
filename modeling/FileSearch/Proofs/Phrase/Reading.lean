/-
This file reads texts as phrases. The search for an operator outside all parentheses and literals
finds exactly the connectives between two spaces; other white space and parentheses around a
connective are not seen.
-/

import FileSearch.Proofs.Phrase.Meaning
import FileSearch.Proofs.Query.Operator

namespace FileSearch

open Text (Symbol ScanState)

theorem Token.read_joined (connective : Connective) (first second : List Symbol) :
    read (first ++ (Symbol.word connective.separator ++ second)) =
      read first ++ (.word (Symbol.word connective.keyword) :: read second) := by
  have space : between? (.plain ' ') = some [] := rfl
  have single : read (Symbol.word connective.keyword) =
      [.word (Symbol.word connective.keyword)] := by
    cases connective <;> rfl
  have behind := read_append space (Symbol.word connective.keyword) second
  have whole : Symbol.word connective.separator ++ second =
      .plain ' ' :: (Symbol.word connective.keyword ++ .plain ' ' :: second) := by
    cases connective <;> rfl
  rw [whole, read_append space, behind, single]
  rfl

theorem Token.read_bracket (symbols : List Symbol) :
    read (Symbol.word "(".toList ++ (symbols ++ Symbol.word ")".toList)) =
      .opening :: (read symbols ++ [.closing]) := by
  have opening : between? (.plain '(') = some [.opening] := rfl
  have closing : between? (.plain ')') = some [.closing] := rfl
  have behind : read (symbols ++ Symbol.word ")".toList) = read symbols ++ [.closing] :=
    read_append closing symbols []
  rw [← behind]
  exact readFrom_cons_of_between? opening [] _

namespace Phrase

/-- A text is read as phrases when it closes its literals and its parentheses. -/
def reading? (text : List Char) : Option (List Phrase) :=
  (Text.symbols? text).bind fun symbols => ofTokens? (Token.read symbols)

variable {first second text : List Char} {phrases more : List Phrase}

theorem reading?_eq_some_iff : reading? text = some phrases ↔
    ∃ symbols, Text.symbols? text = some symbols ∧ Token.read symbols = tokensOf phrases := by
  rw [reading?, Option.bind_eq_some_iff]
  simp only [ofTokens?_eq_some_iff]

theorem reading?_joined (connective : Connective) (readFirst : reading? first = some phrases)
    (readSecond : reading? second = some more) :
    reading? (first ++ (connective.separator ++ second)) =
      some (phrases ++ keyword connective :: more) := by
  rw [reading?_eq_some_iff] at readFirst readSecond ⊢
  obtain ⟨symbols, closed, read⟩ := readFirst
  obtain ⟨others, closedSecond, readOthers⟩ := readSecond
  refine ⟨symbols ++ (Symbol.word connective.separator ++ others), ?_, ?_⟩
  · rw [Text.symbols?_append closed, Text.symbols?_word_append (Text.noQuote_separator connective),
      closedSecond]
    rfl
  · rw [Token.read_joined, read, readOthers, tokensOf_append]
    rfl

theorem reading?_bracket (read : reading? text = some phrases) :
    reading? ("(".toList ++ (text ++ ")".toList)) = some [.group phrases] := by
  rw [reading?_eq_some_iff] at read ⊢
  obtain ⟨symbols, closed, read⟩ := read
  refine ⟨_, Text.symbols?_bracket "(".toList ")".toList (by decide) (by decide) closed, ?_⟩
  rw [Token.read_bracket, read]
  exact (List.append_nil _).symm

/-- A connective stands between two spaces, outside all parentheses and literals. -/
def Spaced (text : List Char) : Prop :=
  ∃ (front : List Char) (connective : Connective) (back : List Char) (phrases : List Phrase),
    text = front ++ (connective.separator ++ back) ∧ reading? front = some phrases

end Phrase

namespace Text.Symbol

/-- The scan of a text counts the parentheses of its symbols. -/
theorem run_of_readFrom? {text value : List Char} {symbols : List Symbol} {quoting : Quoting}
    (depth : Nat) (read : readFrom? quoting value text = some symbols) :
    ScanState.run ⟨depth, quoting⟩ text = ⟨symbols.foldl nest depth, .outside⟩ := by
  induction text generalizing quoting value symbols depth with
  | nil =>
    by_cases outside : quoting = .outside
    · simp only [readFrom?, if_pos outside, Option.some.injEq] at read
      rw [← read, outside]
      rfl
    · simp [readFrom?, outside] at read
  | cons character rest inductionHypothesis =>
    rw [ScanState.run_cons]
    by_cases opened : quoting = .outside
    · subst opened
      rw [readFrom?_outside] at read
      by_cases quote : character = '\''
      · subst quote
        rw [symbols?, readFrom?_open] at read
        exact inductionHypothesis depth read
      · rw [symbols?, readFrom?_plain quote, Option.map_eq_some_iff] at read
        obtain ⟨later, read, rfl⟩ := read
        rw [step_plain quote]
        exact inductionHypothesis _ read
    · rw [readFrom?_cons, Option.map_eq_some_iff] at read
      obtain ⟨later, read, rfl⟩ := read
      rw [step_of_open opened, inductionHypothesis depth read]
      by_cases closes : quoting.step character = .outside
      · rw [closes, ended?_closing opened]
        rfl
      · rw [ended?_open opened closes]
        rfl

end Text.Symbol

namespace Phrase

/-- A word stays on its level. -/
theorem foldlM_collected (word : List Symbol) (level : List Phrase) (outer : Levels) :
    ∃ next, (Token.collected word).foldlM step (level :: outer) = some (next :: outer) := by
  rw [Token.collected]
  split
  · exact ⟨level, rfl⟩
  · exact ⟨level ++ [.word word], rfl⟩

/-- A symbol that ends no word is no parenthesis. -/
theorem nest_of_within {symbol : Symbol} (within : Token.between? symbol = none) (depth : Nat) :
    symbol.nest depth = depth := by
  cases symbol with
  | literal value => rfl
  | plain character =>
    rw [Token.between?] at within
    split at within
    · cases within
    · next noOpening =>
      split at within
      · cases within
      · next noClosing => rw [Symbol.nest, if_neg noOpening, if_neg noClosing]

/-- A symbol that ends a word opens or closes a level, or it does neither. -/
theorem foldlM_between {symbol : Symbol} {tokens : List Token} {level : List Phrase}
    {outer next : Levels} (ends : Token.between? symbol = some tokens)
    (read : tokens.foldlM step (level :: outer) = some next) :
    ∃ inner others, next = inner :: others ∧ others.length = symbol.nest outer.length := by
  cases symbol with
  | literal value => cases ends
  | plain character =>
    rw [Token.between?] at ends
    split at ends
    · next opening =>
      cases ends
      cases read
      refine ⟨[], level :: outer, rfl, ?_⟩
      rw [Symbol.nest, if_pos opening, List.length_cons]
    · next noOpening =>
      split at ends
      · next closing =>
        cases ends
        cases outer with
        | nil => cases read
        | cons above outer =>
          cases read
          refine ⟨_, outer, rfl, ?_⟩
          rw [Symbol.nest, if_neg noOpening, if_pos closing, List.length_cons, Nat.add_sub_cancel]
      · next noClosing =>
        split at ends
        · cases ends
          cases read
          refine ⟨level, outer, rfl, ?_⟩
          rw [Symbol.nest, if_neg noOpening, if_neg noClosing]
        · cases ends

/-- Behind the tokens of a text there are as many open levels as the scan counts parentheses. -/
theorem length_foldlM {word symbols : List Symbol} {level : List Phrase} {outer next : Levels}
    (read : (Token.readFrom word symbols).foldlM step (level :: outer) = some next) :
    next.length = symbols.foldl Symbol.nest outer.length + 1 := by
  induction symbols generalizing word level outer with
  | nil =>
    obtain ⟨last, collected⟩ := foldlM_collected word level outer
    rw [Token.readFrom, collected] at read
    cases read
    rfl
  | cons symbol rest inductionHypothesis =>
    cases ends : Token.between? symbol with
    | none =>
      rw [Token.readFrom, ends] at read
      rw [List.foldl_cons, nest_of_within ends]
      exact inductionHypothesis read
    | some tokens =>
      obtain ⟨last, collected⟩ := foldlM_collected word level outer
      rw [Token.readFrom_cons_of_between? ends, List.foldlM_append, collected,
        Option.bind_eq_bind, Option.bind_some, List.foldlM_append, Option.bind_eq_bind,
        Option.bind_eq_some_iff] at read
      obtain ⟨middle, between, read⟩ := read
      obtain ⟨inner, others, rfl, depth⟩ := foldlM_between ends between
      rw [List.foldl_cons, ← depth]
      exact inductionHypothesis read

/-- In a text whose parentheses are closed, what stands in front of a space closes its own ones when
the scan counts none there. -/
theorem exists_ofTokens?_front {front back : List Symbol}
    (balanced : ofTokens? (Token.read (front ++ .plain ' ' :: back)) = some phrases)
    (depth : front.foldl Symbol.nest 0 = 0) :
    ∃ found, ofTokens? (Token.read front) = some found := by
  have space : Token.between? (.plain ' ') = some [] := rfl
  rw [ofTokens?_eq_some_iff] at balanced
  have read := foldlM_tokensOf phrases [] []
  rw [← balanced, Token.read_append space, List.foldlM_append, Option.bind_eq_bind,
    Option.bind_eq_some_iff] at read
  obtain ⟨middle, readFront, _⟩ := read
  have single : middle.length = 1 := by
    rw [length_foldlM readFront]
    exact congrArg (· + 1) depth
  obtain ⟨found, rfl⟩ := List.length_eq_one_iff.mp single
  exact ⟨found, by rw [ofTokens?, readFront]⟩

theorem startsWithOperator_iff (text : List Char) :
    Text.startsWithOperator text = true ↔
      ∃ (connective : Connective) (back : List Char), text = connective.separator ++ back := by
  rw [Text.startsWithOperator, List.any_eq_true]
  constructor
  · rintro ⟨connective, _, found⟩
    obtain ⟨back, rfl⟩ := List.isPrefixOf_iff_prefix.mp found
    exact ⟨connective, back, rfl⟩
  · rintro ⟨connective, back, rfl⟩
    exact ⟨connective, connective.mem_all,
      List.isPrefixOf_iff_prefix.mpr (List.prefix_append _ back)⟩

/-- The search goes through all places where the scan is as it was at the start. -/
theorem hasOperatorFrom_iff (state : ScanState) (text : List Char) :
    Text.hasOperatorFrom state text = true ↔
      ∃ (front : List Char) (connective : Connective) (back : List Char),
        text = front ++ (connective.separator ++ back) ∧ state.run front = ScanState.start := by
  induction text generalizing state with
  | nil =>
    refine iff_of_false Bool.false_ne_true ?_
    rintro ⟨front, connective, back, same, _⟩
    have lengths := congrArg List.length same
    simp [Connective.separator] at lengths
  | cons character rest inductionHypothesis =>
    rw [Text.hasOperatorFrom, Bool.or_eq_true, Bool.and_eq_true, beq_iff_eq,
      startsWithOperator_iff, inductionHypothesis]
    constructor
    · rintro (⟨rfl, connective, back, found⟩ | ⟨front, connective, back, rfl, run⟩)
      · exact ⟨[], connective, back, found, rfl⟩
      · exact ⟨character :: front, connective, back, rfl, run⟩
    · rintro ⟨front, connective, back, found, run⟩
      cases front with
      | nil => exact .inl ⟨run, connective, back, found⟩
      | cons first front =>
        obtain ⟨rfl, behind⟩ := List.cons.inj found
        exact .inr ⟨front, connective, back, behind, run⟩

/-- The search is exact: it finds the connectives between two spaces and no others. -/
theorem hasTopLevelOperator_iff_spaced (read : reading? text = some phrases) :
    Text.hasTopLevelOperator text = true ↔ Spaced text := by
  rw [Text.hasTopLevelOperator, hasOperatorFrom_iff]
  constructor
  · rintro ⟨front, connective, back, rfl, run⟩
    have closed : (Text.symbols? front).isSome :=
      (Symbol.isSome_readFrom? front [] ScanState.start).mpr (congrArg ScanState.quoting run)
    obtain ⟨symbols, closed⟩ := Option.isSome_iff_exists.mp closed
    have counted := Symbol.run_of_readFrom? 0 closed
    have depth : symbols.foldl Symbol.nest 0 = 0 :=
      congrArg ScanState.depth (counted.symm.trans run)
    rw [reading?_eq_some_iff] at read
    obtain ⟨whole, closedWhole, readWhole⟩ := read
    rw [Text.symbols?_append closed,
      Text.symbols?_word_append (Text.noQuote_separator connective), Option.map_map,
      Option.map_eq_some_iff] at closedWhole
    obtain ⟨others, _, rfl⟩ := closedWhole
    obtain ⟨found, balanced⟩ :=
      exists_ofTokens?_front (ofTokens?_eq_some_iff.mpr readWhole) depth
    exact ⟨front, connective, back, found, rfl, by rw [reading?, closed]; exact balanced⟩
  · rintro ⟨front, connective, back, found, rfl, readFront⟩
    refine ⟨front, connective, back, rfl, ?_⟩
    rw [reading?_eq_some_iff] at readFront
    obtain ⟨symbols, closed, tokens⟩ := readFront
    have levels := foldlM_tokensOf found [] []
    rw [← tokens] at levels
    have counted := length_foldlM levels
    have depth : symbols.foldl Symbol.nest 0 = 0 := (Nat.succ.inj counted).symm
    exact (Symbol.run_of_readFrom? 0 closed).trans (congrArg (ScanState.mk · .outside) depth)

end Phrase

end FileSearch
