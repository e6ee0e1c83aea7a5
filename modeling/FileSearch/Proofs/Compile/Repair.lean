/-
This file shows that a compiled query needs no repair: no keyword dangles from it unless one dangles
from a raw text. The keywords between the parts of a query, and the literals, have no share in it.
-/

import FileSearch.Proofs.Clause.Frame
import FileSearch.Proofs.Emission

namespace FileSearch

open Text (Anchored)

namespace Clause

theorem anchored_joinedText (connective : Connective) {first : Clause} {others : List Clause}
    (anchored : ∀ part ∈ first :: others, Anchored part.text) :
    Anchored (joinedText connective (first :: others)) := by
  induction others generalizing first with
  | nil => exact anchored first List.mem_cons_self
  | cons second rest inductionHypothesis =>
    rw [List.forall_mem_cons] at anchored
    rw [joinedText]
    · exact anchored.1.join (inductionHypothesis anchored.2) connective
    · exact List.cons_ne_nil second rest

/-- Every way to build a clause leaves its text anchored. -/
theorem kept_anchored :
    Kept (fun clause => Anchored clause.text) (fun clause => Anchored clause.text) where
  alone := id
  joined := anchored_joinedText _
  grouped := fun _ => (framed_grouped _).anchored
  negated := fun _ => (framed_negated _).anchored

/-- The empty text has no keyword either. -/
theorem anchored_textOf {clause : Option Clause}
    (anchored : ∀ found ∈ clause, Anchored found.text) : Anchored (textOf clause) := by
  cases clause with
  | none => exact (by decide : Anchored [])
  | some found => exact anchored found rfl

end Clause

/-- An anchored text is taken over as it is. -/
theorem Compiled.ofClause_of_anchored {clause : Option Clause}
    (anchored : Anchored (Clause.textOf clause)) (filters : Summary) :
    ofClause clause filters = ⟨String.ofList (Clause.textOf clause), filters, none⟩ := by
  rw [ofClause, anchored.stripDangling, if_pos rfl]

namespace Expression

/-- No keyword dangles from the visible raw texts of such an expression. -/
def RawAnchored (expression : Expression) : Prop :=
  ∀ text ∈ expression.rawTexts, ¬ Text.isBlank text.toList → Anchored text.toList

instance (expression : Expression) : Decidable expression.RawAnchored :=
  inferInstanceAs (Decidable (∀ text ∈ expression.rawTexts, _ → _))

variable {parts : Node Expression} {compiled : Compiled}

theorem keeps_anchored {expression : Expression} (anchored : expression.RawAnchored) :
    Keeps (fun clause => Anchored clause.text) expression := by
  refine ⟨fun atom _ => ?_, anchored⟩
  have framed : Clause.Framed (.atom atom) := Query.framed_atom atom
  exact framed.anchored

theorem anchored_rootClause {expression : Expression} (anchored : expression.RawAnchored) :
    Anchored (Clause.textOf expression.rootClause?) :=
  Clause.anchored_textOf ((keeps_anchored anchored).rootClause Clause.kept_anchored)

/-- Where no keyword dangles from a raw text, the text that is emitted for a node is its query as it
is: nothing is removed and no repair is noted, whatever the values and bounds hold. -/
theorem compile_needs_no_repair (anchored : (node parts).RawAnchored)
    (compiles : compile (.node parts) = .ok compiled) :
    ∃ clause filters, (Emission.node true parts).run Summary.empty = .ok (clause, filters) ∧
      Text.stripDangling (Clause.textOf clause) = Clause.textOf clause ∧
      compiled = ⟨String.ofList (Clause.textOf clause), filters, none⟩ ∧
      ∀ connective : Connective,
        ¬ connective.keyword ++ [' '] <+: compiled.queryString.toList ∧
        ¬ ' ' :: connective.keyword <:+ compiled.queryString.toList := by
  obtain ⟨accepted, rfl⟩ := compile_node_eq_ok_iff.mp compiles
  have emitted := Emission.node_yields true parts (fun child _ => Emission.reads child)
    Summary.empty
  rw [accepted] at emitted
  have text := anchored_rootClause anchored
  refine ⟨_, _, emitted, text.stripDangling, Compiled.ofClause_of_anchored text _, ?_⟩
  rw [Compiled.ofClause_of_anchored text]
  intro connective
  rw [String.toList_ofList]
  exact (text connective).2

/-- This node has keywords in its raw texts and in its values, and a backslash before a quote. -/
def keywordsInside : Node Expression :=
  { Node.empty with
    disjuncts := some [.raw "android = true", .raw " and ", empty.setField .name (.plain "or \\")]
    conditions :=
      { Conditions.none with
        modified := some ⟨some "and ", some " or"⟩
        rawQuery := some "order and band" } }

theorem compile_needs_no_repair_keywordsInside :
    (node keywordsInside).RawAnchored ∧
      ∃ compiled, compile (.node keywordsInside) = .ok compiled ∧ compiled.repair = none ∧
        ∀ connective : Connective,
          ¬ connective.keyword ++ [' '] <+: compiled.queryString.toList ∧
          ¬ ' ' :: connective.keyword <:+ compiled.queryString.toList := by
  have compiles := (compile_node keywordsInside).trans rfl
  have anchored : (node keywordsInside).RawAnchored := by decide
  obtain ⟨clause, filters, _, _, same, nothing⟩ := compile_needs_no_repair anchored compiles
  exact ⟨anchored, _, compiles, congrArg Compiled.repair same, nothing⟩

end Expression

end FileSearch
