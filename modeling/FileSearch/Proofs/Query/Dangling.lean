/-
This file shows that no keyword dangles from a query. Its first and its last character are none of
those that a keyword has in these places.
-/

import FileSearch.Proofs.Query.Parser
import FileSearch.Proofs.Text.Dangling
import FileSearch.Proofs.Text.Readback
import FileSearch.Text.Blank

namespace FileSearch

namespace Text

namespace Symbol

/-- This is the first character of a symbol, and the last one too. -/
def edge : Symbol → Char
  | .plain character => character
  | .literal _ => '\''

theorem head?_text (symbol : Symbol) : symbol.text.head? = some symbol.edge := by
  cases symbol <;> rfl

theorem getLast?_text (symbol : Symbol) : symbol.text.getLast? = some symbol.edge := by
  cases symbol with
  | plain character => rfl
  | literal value => exact List.getLast?_concat

theorem head?_spell (symbols : List Symbol) : (spell symbols).head? = symbols.head?.map edge := by
  cases symbols with
  | nil => rfl
  | cons symbol rest => rw [spell_cons, List.head?_append, head?_text]; rfl

theorem getLast?_spell (symbols : List Symbol) :
    (spell symbols).getLast? = symbols.getLast?.map edge := by
  induction symbols with
  | nil => rfl
  | cons symbol rest inductionHypothesis =>
    rw [spell_cons, List.getLast?_append, inductionHypothesis, getLast?_text, List.getLast?_cons]
    cases rest.getLast? <;> rfl

/-- An open literal is the first symbol. -/
theorem head?_of_open {text value : List Char} {symbols : List Symbol} {quoting : Quoting}
    (opened : quoting ≠ .outside) (read : readFrom? quoting value text = some symbols) :
    symbols.head?.map edge = some '\'' := by
  induction text generalizing quoting value symbols with
  | nil => simp [readFrom?, opened] at read
  | cons character rest inductionHypothesis =>
    rw [readFrom?_cons, Option.map_eq_some_iff] at read
    obtain ⟨later, read, rfl⟩ := read
    by_cases closes : quoting.step character = .outside
    · rw [closes, ended?_closing opened]
      rfl
    · rw [ended?_open opened closes]
      exact inductionHypothesis closes read

theorem head?_of_symbols? {text : List Char} {symbols : List Symbol}
    (read : symbols? text = some symbols) : text.head? = symbols.head?.map edge := by
  cases text with
  | nil =>
    cases read
    rfl
  | cons character rest =>
    by_cases quote : character = '\''
    · subst quote
      rw [symbols?, readFrom?_open] at read
      rw [head?_of_open (by decide) read]
      rfl
    · rw [symbols?, readFrom?_plain quote, Option.map_eq_some_iff] at read
      obtain ⟨later, _, rfl⟩ := read
      rfl

/-- A character that ends a symbol is its last one. -/
theorem edge_of_closing {quoting : Quoting} {character : Char} (value : List Char)
    (closes : quoting.step character = .outside) :
    (ended? quoting .outside value character).map edge = some character := by
  cases quoting with
  | outside => rfl
  | inside =>
    have quote : character = '\'' := by
      by_contra noQuote
      by_cases backslash : character = '\\' <;>
        simp [Quoting.step, ScanState.step, noQuote, backslash] at closes
    rw [quote]
    rfl
  | escaped => cases closes

theorem getLast?_of_readFrom? {text value : List Char} {symbols : List Symbol} {quoting : Quoting}
    (nonempty : text ≠ []) (read : readFrom? quoting value text = some symbols) :
    text.getLast? = symbols.getLast?.map edge := by
  induction text generalizing quoting value symbols with
  | nil => exact absurd rfl nonempty
  | cons character rest inductionHypothesis =>
    rw [readFrom?_cons, Option.map_eq_some_iff] at read
    obtain ⟨later, read, rfl⟩ := read
    cases rest with
    | nil =>
      have closes : quoting.step character = .outside := by
        by_contra opened
        simp [readFrom?, opened] at read
      simp only [readFrom?, if_pos closes, Option.some.injEq] at read
      have last := edge_of_closing value closes
      rw [closes]
      obtain ⟨symbol, ended, rfl⟩ := Option.map_eq_some_iff.mp last
      rw [ended, ← read]
      rfl
    | cons next rest =>
      have last := inductionHypothesis (List.cons_ne_nil next rest) read
      rw [List.getLast?_cons_cons, last, List.getLast?_append]
      cases found : later.getLast? with
      | none => simp [found] at last
      | some symbol => rfl

theorem getLast?_of_symbols? {text : List Char} {symbols : List Symbol}
    (read : symbols? text = some symbols) : text.getLast? = symbols.getLast?.map edge := by
  cases text with
  | nil =>
    cases read
    rfl
  | cons character rest => exact getLast?_of_readFrom? (List.cons_ne_nil character rest) read

end Symbol

/-- Such a text neither begins nor ends like a keyword. -/
def Steady (text : List Char) : Prop :=
  ∀ connective : Connective, text.head? ≠ connective.keyword.head? ∧
    text.getLast? ≠ connective.keyword.getLast?

/-- A keyword at an end of a text would have its first or its last character there. -/
theorem Steady.anchored {text : List Char} (steady : Steady text) : Anchored text := by
  intro connective
  obtain ⟨noOpening, noClosing⟩ := steady connective
  refine ⟨?_, ?_, ?_⟩
  · rintro rfl
    exact noOpening rfl
  · rintro ⟨rest, rfl⟩
    apply noOpening
    cases connective <;> rfl
  · rintro ⟨rest, rfl⟩
    apply noClosing
    cases connective <;> simp [Connective.keyword]

end Text

open Text (Symbol)

namespace Query

/-- The first symbol is visible, and the first and the last symbol begin and end no keyword. -/
structure Framed (symbols : List Symbol) : Prop where
  first : ∃ symbol ∈ symbols.head?, Text.isSpace symbol.edge = false ∧
    ∀ connective : Connective, some symbol.edge ≠ connective.keyword.head?
  last : ∃ symbol ∈ symbols.getLast?,
    ∀ connective : Connective, some symbol.edge ≠ connective.keyword.getLast?

/-- What stands in the middle does not count. -/
theorem Framed.append {front back : List Symbol} (first : Framed front) (last : Framed back)
    (middle : List Symbol) : Framed (front ++ (middle ++ back)) := by
  obtain ⟨opening, opens, noOpening⟩ := first.first
  obtain ⟨closing, closes, noClosing⟩ := last.last
  refine ⟨⟨opening, ?_, noOpening⟩, ⟨closing, ?_, noClosing⟩⟩
  · rw [List.head?_append, opens]
    rfl
  · rw [List.getLast?_append, List.getLast?_append, closes]
    rfl

/-- The frame is known from the first and the last symbol. -/
theorem Framed.of_symbols {symbols : List Symbol} {opening closing : Symbol}
    (opens : symbols.head? = some opening) (closes : symbols.getLast? = some closing)
    (visible : Text.isSpace opening.edge = false) (noOpening : opening.edge ∉ ['a', 'o'])
    (noClosing : closing.edge ∉ ['d', 'r']) :
    Framed symbols := by
  refine ⟨⟨opening, opens, visible, ?_⟩, ⟨closing, closes, ?_⟩⟩
  · intro connective same
    cases connective <;> simp_all [Connective.keyword]
  · intro connective same
    cases connective <;> simp_all [Connective.keyword]

theorem framed_atom (atom : Atom) : Framed atom.symbols := by
  cases atom with
  | matching field value =>
    cases field with
    | name =>
      exact .of_symbols rfl List.getLast?_concat (by decide) (by decide)
        (by simp [Symbol.edge])
    | mimeType =>
      exact .of_symbols rfl List.getLast?_concat (by decide) (by decide)
        (by simp [Symbol.edge])
    | fullText =>
      exact .of_symbols rfl List.getLast?_concat (by decide) (by decide)
        (by simp [Symbol.edge])
    | parentId =>
      have last : (Atom.fieldSymbols .parentId value.toList).getLast? = some (.plain 's') := rfl
      exact .of_symbols rfl last rfl (by simp [Symbol.edge]) (by decide)
    | owner =>
      have last : (Atom.fieldSymbols .owner value.toList).getLast? = some (.plain 's') := rfl
      exact .of_symbols rfl last rfl (by simp [Symbol.edge]) (by decide)
  | marked flag value =>
    cases flag <;> cases value <;> exact .of_symbols rfl rfl (by decide) (by decide) (by decide)
  | modifiedNotBefore bound =>
    exact .of_symbols rfl List.getLast?_concat (by decide) (by decide) (by simp [Symbol.edge])
  | modifiedBefore bound =>
    exact .of_symbols rfl List.getLast?_concat (by decide) (by decide) (by simp [Symbol.edge])

/-- A parenthesis frames at the end, and at the start a parenthesis or the word in front of it. -/
theorem framed_bracket {front : List Symbol} (framed : Framed front) (inner : List Symbol) :
    Framed (front ++ (inner ++ Symbol.word ")".toList)) :=
  framed.append (.of_symbols rfl rfl (by decide) (by decide) (by decide)) inner

theorem framed_factor (factor : Factor) : Framed factor.symbols := by
  cases factor with
  | atom atom => exact framed_atom atom
  | grouped inner =>
    exact framed_bracket (.of_symbols rfl rfl (by decide) (by decide) (by decide)) inner.symbols
  | negated inner =>
    exact framed_bracket (.of_symbols rfl rfl (by decide) (by decide) (by decide)) inner.symbols

theorem framed_conjunction : (conjunction : Conjunction) → Framed conjunction.symbols
  | .single factor => framed_factor factor
  | .both first others => (framed_factor first).append (framed_conjunction others) _

theorem framed_symbols : (query : Query) → Framed query.symbols
  | .single conjunction => framed_conjunction conjunction
  | .either first others => (framed_conjunction first).append (framed_symbols others) _

theorem steady_of_edges {text : List Char} {symbols : List Symbol} (framed : Framed symbols)
    (first : text.head? = symbols.head?.map Symbol.edge)
    (last : text.getLast? = symbols.getLast?.map Symbol.edge) : Text.Steady text := by
  obtain ⟨opening, opens, _, noOpening⟩ := framed.first
  obtain ⟨closing, closes, noClosing⟩ := framed.last
  intro connective
  rw [first, last, opens, closes]
  exact ⟨noOpening connective, noClosing connective⟩

/-- Nothing dangles from a text that is read as a query. -/
theorem stripDangling_of_parse? {text : List Char} {query : Query}
    (read : parse? text = some query) : Text.stripDangling text = text := by
  have symbols := parse?_eq_some_iff.mp read
  exact (steady_of_edges query.framed_symbols (Symbol.head?_of_symbols? symbols)
    (Symbol.getLast?_of_symbols? symbols)).anchored.stripDangling

theorem visible_of_edge {text : List Char} {symbols : List Symbol} (framed : Framed symbols)
    (first : text.head? = symbols.head?.map Symbol.edge) : Text.isBlank text = false := by
  obtain ⟨opening, opens, visible, _⟩ := framed.first
  rw [opens, Option.map_some] at first
  obtain ⟨rest, rfl⟩ := List.head?_eq_some_iff.mp first
  rw [Text.isBlank, List.all_cons, visible, Bool.false_and]

/-- A text that is read as a query is not blank. -/
theorem visible_of_parse? {text : List Char} {query : Query} (read : parse? text = some query) :
    Text.isBlank text = false :=
  visible_of_edge query.framed_symbols (Symbol.head?_of_symbols? (parse?_eq_some_iff.mp read))

end Query

end FileSearch
