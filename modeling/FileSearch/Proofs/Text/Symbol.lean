/-
This file reads a text as symbols: the characters outside all literals, and the literals. Reading
follows the scan. What was written comes back exactly when no literal holds a backslash.
-/

import FileSearch.Text.Literal
import FileSearch.Text.Scan
import Mathlib.Data.List.Basic

namespace FileSearch.Text

/-- Parentheses do not change the quoting, so that the depth plays no part in it. -/
def Quoting.step (quoting : Quoting) (character : Char) : Quoting :=
  (ScanState.step ⟨0, quoting⟩ character).quoting

theorem ScanState.quoting_step (state : ScanState) (character : Char) :
    (state.step character).quoting = state.quoting.step character := by
  cases state with
  | mk depth quoting =>
    cases quoting <;> simp only [Quoting.step, ScanState.step] <;> split_ifs <;> rfl

/-- A symbol is a character outside all literals, or a literal with the backslashes that protect its
characters removed. -/
inductive Symbol where
  | plain (character : Char)
  | literal (value : List Char)
  deriving DecidableEq

namespace Symbol

/-- This is the text of a symbol in a query. -/
def text : Symbol → List Char
  | .plain character => [character]
  | .literal value => Text.literal value

/-- This function writes symbols one behind the other. -/
def spell (symbols : List Symbol) : List Char :=
  symbols.flatMap text

/-- These are the symbols of a text without literals. -/
def word (text : List Char) : List Symbol :=
  text.map .plain

def literal? : Symbol → Option (List Char)
  | .plain _ => none
  | .literal value => some value

def literals (symbols : List Symbol) : List (List Char) :=
  symbols.filterMap literal?

/-- This function hides the value of a literal and keeps all else. -/
def masked : Symbol → Symbol
  | .plain character => .plain character
  | .literal _ => .literal []

/-- Such a symbol is read as it was written. -/
def Faithful : Symbol → Prop
  | .plain character => character ≠ '\''
  | .literal value => '\\' ∉ value

instance : DecidablePred Faithful := fun symbol => by
  cases symbol <;> unfold Faithful <;> infer_instance

/-- A character outside all literals is a symbol, and a literal is one when it is closed. -/
def ended? (quoting next : Quoting) (value : List Char) (character : Char) : Option Symbol :=
  match quoting, next with
  | .outside, .outside => some (.plain character)
  | .outside, _ => none
  | _, .outside => some (.literal value)
  | _, _ => none

/-- An open literal collects its characters, except a backslash that protects the next one. -/
def collected (quoting next : Quoting) (value : List Char) (character : Char) : List Char :=
  match quoting, next with
  | .outside, _ => []
  | _, .outside => []
  | _, .escaped => value
  | _, .inside => value ++ [character]

/-- The value holds what an open literal has collected. A text that ends inside a literal has no
symbols. -/
def readFrom? (quoting : Quoting) (value : List Char) : List Char → Option (List Symbol)
  | [] => if quoting = .outside then some [] else none
  | character :: rest =>
    let next := quoting.step character
    (readFrom? next (collected quoting next value character) rest).map
      ((ended? quoting next value character).toList ++ ·)

@[simp]
theorem spell_nil : spell [] = [] := rfl

@[simp]
theorem spell_cons (symbol : Symbol) (rest : List Symbol) :
    spell (symbol :: rest) = symbol.text ++ spell rest := rfl

@[simp]
theorem spell_append (first second : List Symbol) :
    spell (first ++ second) = spell first ++ spell second := by
  simp [spell]

@[simp]
theorem spell_word (text : List Char) : spell (word text) = text := by
  simp [spell, word, List.flatMap_map, Symbol.text]

@[simp]
theorem length_word (text : List Char) : (word text).length = text.length := by
  simp [word]

@[simp]
theorem literals_append (first second : List Symbol) :
    literals (first ++ second) = literals first ++ literals second := by
  simp [literals]

@[simp]
theorem literals_word (text : List Char) : literals (word text) = [] := by
  simp [literals, word, List.filterMap_map, Function.comp_def, literal?]

theorem spell_word_literal (text value : List Char) :
    spell (word text ++ [.literal value]) = text ++ Text.literal value := by
  rw [spell_append, spell_word, spell_cons, spell_nil, List.append_nil]
  rfl

theorem spell_literal_word (value text : List Char) :
    spell (.literal value :: word text) = Text.literal value ++ text := by
  rw [spell_cons, spell_word]
  rfl

theorem literals_word_literal (text value : List Char) :
    literals (word text ++ [.literal value]) = [value] := by
  rw [literals_append, literals_word]
  rfl

theorem literals_literal_word (value text : List Char) :
    literals (.literal value :: word text) = [value] :=
  congrArg (value :: ·) (literals_word text)

end Symbol

/-- These are the symbols of a text, unless it leaves a literal open. -/
def symbols? (text : List Char) : Option (List Symbol) :=
  Symbol.readFrom? .outside [] text

namespace Symbol

theorem readFrom?_cons (quoting : Quoting) (value : List Char) (character : Char)
    (rest : List Char) :
    readFrom? quoting value (character :: rest) =
      (readFrom? (quoting.step character)
        (collected quoting (quoting.step character) value character) rest).map
        ((ended? quoting (quoting.step character) value character).toList ++ ·) := rfl

/-- Outside all literals nothing has been collected. -/
theorem readFrom?_outside (value text : List Char) :
    readFrom? .outside value text = symbols? text := by
  cases text with
  | nil => rfl
  | cons character rest =>
    rw [symbols?, readFrom?_cons, readFrom?_cons]
    cases Quoting.outside.step character <;> rfl

theorem readFrom?_plain {character : Char} (noQuote : character ≠ '\'') (value rest : List Char) :
    readFrom? .outside value (character :: rest) =
      (symbols? rest).map (.plain character :: ·) := by
  have stays : Quoting.outside.step character = .outside := by
    simp only [Quoting.step, ScanState.step, noQuote, if_false]
    split_ifs <;> rfl
  rw [readFrom?_cons, stays]
  rfl

theorem readFrom?_open (value rest : List Char) :
    readFrom? .outside value ('\'' :: rest) = readFrom? .inside [] rest := by
  rw [readFrom?_cons]
  exact Option.map_id'

theorem readFrom?_close (value rest : List Char) :
    readFrom? .inside value ('\'' :: rest) = (symbols? rest).map (.literal value :: ·) := rfl

theorem readFrom?_protected (character : Char) (value rest : List Char) :
    readFrom? .inside value ('\\' :: character :: rest) =
      readFrom? .inside (value ++ [character]) rest := by
  rw [readFrom?_cons, readFrom?_cons, Option.map_map]
  exact Option.map_id'

theorem readFrom?_inside {character : Char} (noQuote : character ≠ '\'')
    (noBackslash : character ≠ '\\') (value rest : List Char) :
    readFrom? .inside value (character :: rest) =
      readFrom? .inside (value ++ [character]) rest := by
  have stays : Quoting.inside.step character = .inside := by
    simp only [Quoting.step, ScanState.step, noQuote, noBackslash, if_false]
  rw [readFrom?_cons, stays]
  exact Option.map_id'

/-- A text is read up to its end exactly when the scan ends outside all literals. -/
theorem isSome_readFrom? (text value : List Char) (state : ScanState) :
    (readFrom? state.quoting value text).isSome ↔ (state.run text).quoting = .outside := by
  induction text generalizing value state with
  | nil => by_cases outside : state.quoting = .outside <;> simp [readFrom?, outside]
  | cons character rest inductionHypothesis =>
    rw [readFrom?_cons, Option.isSome_map, ScanState.run_cons, ← ScanState.quoting_step]
    exact inductionHypothesis _ _

/-- A text that closes its literals is read apart from the text behind it. -/
theorem readFrom?_append {first : List Char} {symbols : List Symbol} {quoting : Quoting}
    {value : List Char} (read : readFrom? quoting value first = some symbols)
    (second : List Char) :
    readFrom? quoting value (first ++ second) = (symbols? second).map (symbols ++ ·) := by
  induction first generalizing quoting value symbols with
  | nil =>
    by_cases outside : quoting = .outside
    · simp only [readFrom?, if_pos outside, Option.some.injEq] at read
      rw [outside, ← read, List.nil_append, readFrom?_outside]
      exact Option.map_id'.symm
    · simp [readFrom?, outside] at read
  | cons character rest inductionHypothesis =>
    rw [readFrom?_cons, Option.map_eq_some_iff] at read
    obtain ⟨others, read, rfl⟩ := read
    rw [List.cons_append, readFrom?_cons, inductionHypothesis read, Option.map_map]
    simp [Function.comp_def]

/-- The backslashes that were put in front of the quotes are removed again. -/
theorem readFrom?_escape {written : List Char} (noBackslash : '\\' ∉ written)
    (value rest : List Char) :
    readFrom? .inside value (escape written ++ rest) =
      readFrom? .inside (value ++ written) rest := by
  induction written generalizing value with
  | nil => simp [escape]
  | cons character others inductionHypothesis =>
    simp only [List.mem_cons, not_or] at noBackslash
    by_cases quote : character = '\''
    · subst quote
      rw [escape_cons_quote, List.cons_append, List.cons_append, readFrom?_protected,
        inductionHypothesis noBackslash.2, List.append_assoc, List.singleton_append]
    · rw [escape_cons_of_ne quote, List.cons_append,
        readFrom?_inside quote (Ne.symm noBackslash.1), inductionHypothesis noBackslash.2,
        List.append_assoc, List.singleton_append]

/-- A faithful symbol is read back in front of any text. -/
theorem symbols?_text_append {symbol : Symbol} (faithful : symbol.Faithful) (rest : List Char) :
    symbols? (symbol.text ++ rest) = (symbols? rest).map (symbol :: ·) := by
  cases symbol with
  | plain character => exact readFrom?_plain faithful [] rest
  | literal value =>
    simp only [Symbol.text, Text.literal, List.cons_append, List.append_assoc, List.nil_append]
    rw [symbols?, readFrom?_open, readFrom?_escape faithful, List.nil_append, readFrom?_close]

theorem symbols?_spell_append {symbols : List Symbol}
    (faithful : ∀ symbol ∈ symbols, symbol.Faithful) (rest : List Char) :
    symbols? (spell symbols ++ rest) = (symbols? rest).map (symbols ++ ·) := by
  induction symbols with
  | nil => exact Option.map_id'.symm
  | cons symbol others inductionHypothesis =>
    rw [List.forall_mem_cons] at faithful
    rw [spell_cons, List.append_assoc, symbols?_text_append faithful.1,
      inductionHypothesis faithful.2, Option.map_map]
    rfl

/-- Faithful symbols are read as they were written. -/
theorem symbols?_spell {symbols : List Symbol}
    (faithful : ∀ symbol ∈ symbols, symbol.Faithful) :
    symbols? (spell symbols) = some symbols := by
  have read := symbols?_spell_append faithful []
  rw [List.append_nil] at read
  rw [read]
  simp [symbols?, readFrom?]

theorem faithful_word {text : List Char} (noQuote : '\'' ∉ text) :
    ∀ symbol ∈ word text, symbol.Faithful := by
  intro symbol member
  obtain ⟨character, found, rfl⟩ := List.mem_map.mp member
  exact fun quote => noQuote (quote ▸ found)

end Symbol

theorem symbols?_word_append {text : List Char} (noQuote : '\'' ∉ text) (rest : List Char) :
    symbols? (text ++ rest) = (symbols? rest).map (Symbol.word text ++ ·) := by
  have read := Symbol.symbols?_spell_append (Symbol.faithful_word noQuote) rest
  rwa [Symbol.spell_word] at read

theorem symbols?_word {text : List Char} (noQuote : '\'' ∉ text) :
    symbols? text = some (Symbol.word text) := by
  have read := Symbol.symbols?_spell (Symbol.faithful_word noQuote)
  rwa [Symbol.spell_word] at read

theorem symbols?_append {first : List Char} {symbols : List Symbol}
    (read : symbols? first = some symbols) (second : List Char) :
    symbols? (first ++ second) = (symbols? second).map (symbols ++ ·) :=
  Symbol.readFrom?_append read second

theorem symbols?_bracket (front back : List Char) {inner : List Char} {symbols : List Symbol}
    (noFront : '\'' ∉ front) (noBack : '\'' ∉ back) (read : symbols? inner = some symbols) :
    symbols? (front ++ (inner ++ back)) =
      some (Symbol.word front ++ (symbols ++ Symbol.word back)) := by
  rw [symbols?_word_append noFront, symbols?_append read, symbols?_word noBack]
  rfl

theorem noQuote_separator (connective : Connective) : '\'' ∉ connective.separator := by
  cases connective <;> decide

end FileSearch.Text
