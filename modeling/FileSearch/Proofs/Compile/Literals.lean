/-
This file reads back the literals of a compiled query. They are the values of the expression exactly
when no value holds a backslash; the query has then the same outline for all values.
-/

import FileSearch.Proofs.Clause.Frame
import FileSearch.Proofs.Compile.Meaning
import FileSearch.Proofs.Expression.Outline

namespace FileSearch

open Text (Symbol ScanState)

namespace Text.Symbol

theorem mem_joined {connective : Connective} {parts : List (List Symbol)} {symbol : Symbol}
    (member : symbol ∈ joined connective parts) :
    symbol ∈ word connective.separator ∨ ∃ part ∈ parts, symbol ∈ part := by
  match parts with
  | [] => cases member
  | [part] => exact .inr ⟨part, List.mem_cons_self, member⟩
  | part :: second :: rest =>
    rw [joined, List.mem_append, List.mem_append] at member
    · rcases member with first | separator | others
      · exact .inr ⟨part, List.mem_cons_self, first⟩
      · exact .inl separator
      · have inductionHypothesis := mem_joined others
        rw [List.exists_mem_cons_iff]
        exact inductionHypothesis.imp_right .inr
    · exact List.cons_ne_nil second rest

theorem noQuote_word {text : List Char} (noQuote : '\'' ∉ text) : .plain '\'' ∉ word text := by
  intro member
  obtain ⟨character, found, same⟩ := List.mem_map.mp member
  cases same
  exact noQuote found

theorem noQuote_bracket {front back : List Char} {inner : List Symbol} (noFront : '\'' ∉ front)
    (noBack : '\'' ∉ back) (noQuote : .plain '\'' ∉ inner) :
    .plain '\'' ∉ word front ++ (inner ++ word back) := by
  rw [List.mem_append, List.mem_append, not_or, not_or]
  exact ⟨noQuote_word noFront, noQuote, noQuote_word noBack⟩

end Text.Symbol

namespace Clause

/-- No keyword dangles from such a clause, and every quote in it belongs to a literal. -/
structure Sealed (clause : Clause) : Prop where
  framed : Query.Framed clause.symbols
  noQuote : .plain '\'' ∉ clause.symbols

theorem sealed_atom (condition : Atom) : Sealed (.atom condition) :=
  ⟨Query.framed_atom condition, condition.noQuote_symbols⟩

theorem sealed_joined {connective : Connective} {first : Clause} {others : List Clause}
    (sealed : ∀ clause ∈ first :: others, Sealed clause) :
    Sealed (.joined connective (first :: others)) := by
  have written : symbols (.joined connective (first :: others)) =
      Symbol.joined connective ((first :: others).map symbols) :=
    fold_joined _ _ _ _ _ connective _
  constructor
  · exact kept_framed.joined fun clause member => (sealed clause member).framed
  · rw [written]
    intro member
    rcases Symbol.mem_joined member with separator | ⟨part, listed, found⟩
    · exact Symbol.noQuote_word (Text.noQuote_separator connective) separator
    · obtain ⟨clause, present, rfl⟩ := List.mem_map.mp listed
      exact (sealed clause present).noQuote found

/-- Parentheses around a clause keep it sealed, and so does a word in front of them. -/
theorem sealed_bracket {inner whole : Clause} (front : List Char)
    (written : whole.symbols =
      Symbol.word front ++ (inner.symbols ++ Symbol.word ")".toList))
    (framed : Query.Framed (Symbol.word front)) (noQuote : '\'' ∉ front) (sealed : Sealed inner) :
    Sealed whole := by
  constructor
  · rw [written]
    exact Query.framed_bracket framed inner.symbols
  · rw [written]
    exact Symbol.noQuote_bracket noQuote (by decide) sealed.noQuote

theorem kept_sealed : Kept Sealed Sealed where
  alone := id
  joined := sealed_joined
  grouped := by
    intro clause sealed
    refine sealed_bracket "(".toList rfl ?_ (by decide) sealed
    exact .of_symbols rfl rfl (by decide) (by decide) (by decide)
  negated := by
    intro clause sealed
    refine sealed_bracket "not (".toList rfl ?_ (by decide) sealed
    exact .of_symbols rfl rfl (by decide) (by decide) (by decide)

end Clause

/-- These are the literals of atoms in their order. -/
def Atom.literals (atoms : List Atom) : List (List Char) :=
  (atoms.filterMap Atom.literal?).map String.toList

theorem Atom.literals_flatMap (atoms : List Atom) :
    (atoms.flatMap fun condition => Symbol.literals condition.symbols) = Atom.literals atoms := by
  induction atoms with
  | nil => rfl
  | cons condition rest inductionHypothesis =>
    rw [List.flatMap_cons, inductionHypothesis, Atom.literals_symbols, literals, literals,
      List.filterMap_cons]
    cases condition.literal? <;> rfl

namespace Expression

/-- These are the symbols that the query of an expression is written with. -/
def symbols (expression : Expression) : List Symbol :=
  expression.rootClause?.toList.flatMap Clause.symbols

/-- These are the values and bounds of an expression that are not blank, in the order of its
query. -/
def literals (expression : Expression) : List (List Char) :=
  Atom.literals expression.atoms

theorem literals_symbols (expression : Expression) :
    Symbol.literals expression.symbols = expression.literals := by
  rw [literals, ← content_rootClause?, symbols, Clause.content, ← Atom.literals_flatMap]
  cases expression.rootClause? with
  | none => rfl
  | some clause =>
    rw [Option.toList_some, List.flatMap_singleton, List.flatMap_singleton]
    exact clause.literals_symbols

variable {parts : Node Expression} {compiled : Compiled}

theorem sealed_rootClause {expression : Expression} (noRaw : expression.rawTexts = []) :
    ∀ clause ∈ expression.rootClause?, clause.Sealed :=
  (keeps_of_atoms noRaw fun condition _ => Clause.sealed_atom condition).rootClause
    Clause.kept_sealed

theorem noQuote_symbols {expression : Expression} (noRaw : expression.rawTexts = []) :
    ∀ character, .plain character ∈ expression.symbols → character ≠ '\'' := by
  rintro _ member rfl
  obtain ⟨clause, found, inside⟩ := List.mem_flatMap.mp member
  exact (sealed_rootClause noRaw clause (Option.mem_toList.mp found)).noQuote inside

/-- Nothing is removed from the text of the symbols. -/
theorem toList_queryString (noRaw : (node parts).rawTexts = [])
    (compiles : compile (.node parts) = .ok compiled) :
    compiled.queryString.toList = Symbol.spell (node parts).symbols := by
  obtain ⟨filters, rfl⟩ := eq_ofClause_of_compile compiles
  rw [symbols]
  cases found : rootClause? (.node parts) with
  | none =>
    rw [Compiled.queryString_ofClause_none]
    rfl
  | some clause =>
    have sealed := sealed_rootClause noRaw clause found
    rw [Compiled.ofClause, Clause.textOf, (Clause.Framed.anchored sealed.framed).stripDangling,
      String.toList_ofList, Option.toList_some, List.flatMap_singleton, clause.spell_symbols]

/-- The outline of the symbols does not depend on the values of an expression. -/
theorem outline_eq_of_masked_eq {first second : Node Expression}
    (same : masked (.node first) = masked (.node second)) :
    (node first).symbols.map Symbol.masked = (node second).symbols.map Symbol.masked := by
  have outline (parts : Node Expression) : (node parts).symbols.map Symbol.masked =
      (masked (.node parts)).rootClause?.toList.flatMap Clause.outline := by
    rw [rootClause?_masked, symbols, List.map_flatMap]
    cases rootClause? (.node parts) with
    | none => rfl
    | some clause =>
      rw [Option.map_some, Option.toList_some, Option.toList_some, List.flatMap_singleton,
        List.flatMap_singleton, Clause.outline_masked]
      rfl
  rw [outline, outline, same]

/-- Without backslashes in the values the query is read as it was written. -/
theorem symbols?_queryString (noRaw : (node parts).rawTexts = [])
    (noBackslash : ∀ value ∈ (node parts).literals, '\\' ∉ value)
    (compiles : compile (.node parts) = .ok compiled) :
    Text.symbols? compiled.queryString.toList = some (node parts).symbols := by
  rw [toList_queryString noRaw compiles]
  apply Symbol.symbols?_spell
  intro symbol member
  cases symbol with
  | plain character => exact noQuote_symbols noRaw character member
  | literal value =>
    apply noBackslash value
    rw [← literals_symbols]
    exact List.mem_filterMap.mpr ⟨_, member, rfl⟩

/-- The query closes its literals and they are the values of the expression exactly when no value
holds a backslash. Then the values have no influence on what stands around them. -/
theorem literals_compile_iff (noRaw : (node parts).rawTexts = [])
    (compiles : compile (.node parts) = .ok compiled) :
    ((ScanState.start.run compiled.queryString.toList).quoting = .outside ∧
        (Text.symbols? compiled.queryString.toList).map Symbol.literals =
          some (node parts).literals ↔
      ∀ value ∈ (node parts).literals, '\\' ∉ value) ∧
    ((∀ value ∈ (node parts).literals, '\\' ∉ value) →
      ∀ (other : Node Expression) (result : Compiled), (node other).rawTexts = [] →
        (∀ value ∈ (node other).literals, '\\' ∉ value) → compile (.node other) = .ok result →
          masked (.node parts) = masked (.node other) →
            (Text.symbols? compiled.queryString.toList).map (List.map Symbol.masked) =
              (Text.symbols? result.queryString.toList).map (List.map Symbol.masked)) := by
  have written := toList_queryString noRaw compiles
  have criterion := Symbol.literals_symbols?_spell_iff (noQuote_symbols noRaw)
  rw [← written, literals_symbols] at criterion
  constructor
  · rw [← criterion]
    constructor
    · intro read
      exact read.2
    · intro read
      obtain ⟨found, closed, _⟩ := Option.map_eq_some_iff.mp read
      refine ⟨?_, read⟩
      apply (Symbol.isSome_readFrom? compiled.queryString.toList [] ScanState.start).mp
      exact Option.isSome_iff_exists.mpr ⟨found, closed⟩
  · intro noBackslash other result otherNoRaw otherNoBackslash otherCompiles same
    rw [symbols?_queryString noRaw noBackslash compiles,
      symbols?_queryString otherNoRaw otherNoBackslash otherCompiles, Option.map_some,
      Option.map_some, outline_eq_of_masked_eq same]

/-- This node asks for a name that holds a backslash and nothing else. -/
def backslashName : Node Expression :=
  { Node.empty with
    conditions :=
      { Conditions.none with
        fields := Conditions.none.fields.set .name (some (.plain "\\")) } }

theorem literals_compile_iff_backslashName :
    ∃ compiled, compile (.node backslashName) = .ok compiled ∧
      ¬ ((ScanState.start.run compiled.queryString.toList).quoting = .outside ∧
        (Text.symbols? compiled.queryString.toList).map Symbol.literals =
          some (node backslashName).literals) := by
  have compiles := (compile_node backslashName).trans rfl
  refine ⟨_, compiles, fun read => ?_⟩
  have noBackslash := (literals_compile_iff (by decide) compiles).1.mp read
  have value : (node backslashName).literals = [['\\']] := by decide
  rw [value] at noBackslash
  exact noBackslash ['\\'] List.mem_cons_self List.mem_cons_self

end Expression

end FileSearch
