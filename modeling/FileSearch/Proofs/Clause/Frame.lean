/-
This file looks at the text of a clause whatever its literals hold. It begins and ends like no
keyword, and it consists of closed texts and of the literals of its atoms.
-/

import FileSearch.Proofs.Clause.Shape
import FileSearch.Proofs.Clause.Traversal
import FileSearch.Proofs.Query.Dangling
import FileSearch.Proofs.Text.Alignment

namespace FileSearch

open Text (Symbol Written)

namespace Query

theorem framed_joined (connective : Connective) {first : List Symbol}
    {others : List (List Symbol)} (framed : ∀ part ∈ first :: others, Framed part) :
    Framed (Symbol.joined connective (first :: others)) := by
  induction others generalizing first with
  | nil => exact framed first List.mem_cons_self
  | cons second rest inductionHypothesis =>
    rw [List.forall_mem_cons] at framed
    exact framed.1.append (inductionHypothesis framed.2) (Symbol.word connective.separator)

/-- A text has the frame of the symbols that it is read as. -/
theorem framed_word {text : List Char} {symbols : List Symbol} (framed : Framed symbols)
    (read : Text.symbols? text = some symbols) : Framed (Symbol.word text) := by
  obtain ⟨opening, opens, visible, noOpening⟩ := framed.first
  obtain ⟨closing, closes, noClosing⟩ := framed.last
  have first := Symbol.head?_of_symbols? read
  have last := Symbol.getLast?_of_symbols? read
  rw [opens, Option.map_some] at first
  rw [closes, Option.map_some] at last
  refine ⟨⟨.plain opening.edge, ?_, visible, noOpening⟩, ⟨.plain closing.edge, ?_, noClosing⟩⟩
  · rw [Symbol.word, List.head?_map, first]
    rfl
  · rw [Symbol.word, List.getLast?_map, last]
    rfl

/-- No backslash stands outside the literals of a query. -/
theorem noBackslash_atom (atom : Atom) : .plain '\\' ∉ atom.symbols := by
  cases atom with
  | matching field value => cases field <;> simp [Atom.symbols, Atom.fieldSymbols, Symbol.word]
  | marked flag value => cases flag <;> cases value <;> decide
  | modifiedNotBefore bound => simp [Atom.symbols, Symbol.word]
  | modifiedBefore bound => simp [Atom.symbols, Symbol.word]

mutual

theorem noBackslash_symbols : (query : Query) → .plain '\\' ∉ query.symbols
  | .single conjunction => noBackslash_conjunction conjunction
  | .either first others => by
    rw [symbols, List.mem_append, List.mem_append, not_or, not_or]
    exact ⟨noBackslash_conjunction first, by decide, noBackslash_symbols others⟩

theorem noBackslash_conjunction : (conjunction : Conjunction) → .plain '\\' ∉ conjunction.symbols
  | .single factor => noBackslash_factor factor
  | .both first others => by
    rw [Conjunction.symbols, List.mem_append, List.mem_append, not_or, not_or]
    exact ⟨noBackslash_factor first, by decide, noBackslash_conjunction others⟩

theorem noBackslash_factor : (factor : Factor) → .plain '\\' ∉ factor.symbols
  | .atom atom => noBackslash_atom atom
  | .grouped inner => by
    rw [Factor.symbols, List.mem_append, List.mem_append, not_or, not_or]
    exact ⟨by decide, noBackslash_symbols inner, by decide⟩
  | .negated inner => by
    rw [Factor.symbols, List.mem_append, List.mem_append, not_or, not_or]
    exact ⟨by decide, noBackslash_symbols inner, by decide⟩

end

theorem closed_of_parse? {text : List Char} {query : Query} (read : parse? text = some query) :
    Text.Closed text :=
  ⟨query.symbols, parse?_eq_some_iff.mp read, query.noBackslash_symbols⟩

end Query

namespace Atom

theorem written_text (condition : Atom) :
    Written condition.text (Symbol.literals condition.symbols) := by
  rw [literals_symbols]
  have front {text : List Char} (value : List Char) (closed : Text.Closed text) :
      Written (text ++ Text.literal value) [value] := .closed closed (.of_literal value)
  have back {text : List Char} (value : List Char) (closed : Text.Closed text) :
      Written (Text.literal value ++ text) [value] := .literal (.of_closed closed)
  cases condition with
  | matching field value =>
    cases field with
    | name => exact front _ (Text.closed_word (by decide) (by decide))
    | mimeType => exact front _ (Text.closed_word (by decide) (by decide))
    | fullText => exact front _ (Text.closed_word (by decide) (by decide))
    | parentId => exact back _ (Text.closed_word (by decide) (by decide))
    | owner => exact back _ (Text.closed_word (by decide) (by decide))
  | marked flag value =>
    refine .of_closed (Text.closed_word ?_ ?_)
    · cases flag <;> cases value <;> decide
    · cases flag <;> cases value <;> decide
  | modifiedNotBefore bound => exact front _ (Text.closed_word (by decide) (by decide))
  | modifiedBefore bound => exact front _ (Text.closed_word (by decide) (by decide))

end Atom

namespace Clause

variable {clause : Clause}

/-- The text of such a clause begins and ends like no keyword. -/
def Framed (clause : Clause) : Prop :=
  Query.Framed clause.symbols

/-- Parentheses frame whatever stands in them. -/
theorem framed_grouped (inner : Clause) : Framed (.grouped inner) :=
  Query.framed_bracket (.of_symbols rfl rfl (by decide) (by decide) (by decide)) inner.symbols

theorem framed_negated (inner : Clause) : Framed (.negated inner) :=
  Query.framed_bracket (.of_symbols rfl rfl (by decide) (by decide) (by decide)) inner.symbols

theorem kept_framed : Kept Framed Framed where
  alone := id
  joined := by
    intro connective first others framed
    have written : symbols (.joined connective (first :: others)) =
        Symbol.joined connective ((first :: others).map symbols) :=
      fold_joined _ _ _ _ _ connective _
    rw [Framed, written]
    apply Query.framed_joined
    show ∀ part ∈ (first :: others).map symbols, Query.Framed part
    rw [List.forall_mem_map]
    exact framed
  grouped := fun _ => framed_grouped _
  negated := fun _ => framed_negated _

theorem framed_verbatim {text : String} {query : Query}
    (read : Query.parse? text.toList = some query) : Framed (.verbatim text) :=
  Query.framed_word query.framed_symbols (Query.parse?_eq_some_iff.mp read)

theorem Framed.anchored (framed : clause.Framed) : Text.Anchored clause.text := by
  rw [← clause.spell_symbols]
  exact (Query.steady_of_edges framed (Symbol.head?_spell _)
    (Symbol.getLast?_spell _)).anchored

theorem Framed.visible (framed : clause.Framed) : Text.isBlank clause.text = false := by
  rw [← clause.spell_symbols]
  exact Query.visible_of_edge framed (Symbol.head?_spell _)

/-- The text of such a clause is not blank. -/
def Visible (clause : Clause) : Prop :=
  Text.isBlank clause.text = false

/-- Every way to build a clause gives a visible text. -/
theorem kept_visible : Kept Visible Visible where
  alone := id
  joined := by
    intro connective first others visible
    have opening : Text.isBlank first.text = false := visible first List.mem_cons_self
    show Text.isBlank (joinedText connective (first :: others)) = false
    rw [joinedText_cons, Text.isBlank_append, opening, Bool.false_and]
  grouped := fun _ => (framed_grouped _).visible
  negated := fun _ => (framed_negated _).visible

theorem Visible.text_ne_nil (visible : clause.Visible) : clause.text ≠ [] := by
  intro empty
  rw [Visible, empty] at visible
  cases visible

/-- The text of such a clause consists of closed texts and of the literals of its atoms. -/
def Laid (clause : Clause) : Prop :=
  Written clause.text (Symbol.literals clause.symbols)

theorem written_joinedText (connective : Connective) {parts : List Clause}
    (laid : ∀ part ∈ parts, Laid part) :
    Written (joinedText connective parts)
      (parts.flatMap fun part => Symbol.literals part.symbols) := by
  match parts with
  | [] => exact .nil
  | [part] =>
    rw [List.flatMap_singleton]
    exact laid part List.mem_cons_self
  | part :: second :: rest =>
    rw [List.forall_mem_cons] at laid
    have separator : Text.Closed connective.separator := by
      cases connective
      · exact Text.closed_word (by decide) (by decide)
      · exact Text.closed_word (by decide) (by decide)
    rw [joinedText, List.flatMap_cons, List.append_assoc]
    · exact laid.1.append (.closed separator (written_joinedText connective laid.2))
    · exact List.cons_ne_nil second rest

theorem kept_laid : Kept Laid Laid where
  alone := id
  joined := by
    intro connective first others laid
    have written : symbols (.joined connective (first :: others)) =
        Symbol.joined connective ((first :: others).map symbols) :=
      fold_joined _ _ _ _ _ connective _
    rw [Laid, written, Symbol.literals_joined, List.flatMap_map]
    exact written_joinedText connective laid
  grouped := by
    intro inner laid
    have opening : Text.Closed "(".toList := Text.closed_word (by decide) (by decide)
    have closing : Text.Closed ")".toList := Text.closed_word (by decide) (by decide)
    have written : Symbol.literals (symbols (.grouped inner)) = Symbol.literals inner.symbols :=
      Symbol.literals_bracket _ _ _
    rw [Laid, text_grouped, written]
    exact .bracket opening closing laid
  negated := by
    intro inner laid
    have opening : Text.Closed "not (".toList := Text.closed_word (by decide) (by decide)
    have closing : Text.Closed ")".toList := Text.closed_word (by decide) (by decide)
    have written : Symbol.literals (symbols (.negated inner)) = Symbol.literals inner.symbols :=
      Symbol.literals_bracket _ _ _
    rw [Laid, text_negated, written]
    exact .bracket opening closing laid

end Clause

/-- Atoms and raw texts are visible where they have a clause at all. -/
theorem Expression.keeps_visible (expression : Expression) :
    Keeps Clause.Visible expression := by
  refine ⟨fun atom _ => ?_, fun text _ visible => Bool.eq_false_iff.mpr visible⟩
  have framed : Clause.Framed (.atom atom) := Query.framed_atom atom
  exact framed.visible

end FileSearch
