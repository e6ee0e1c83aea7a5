/-
This file shows what a clause demands of every file that satisfies it. A conjunction demands what
one of its parts demands, provided that no other part is taken apart.
-/

import FileSearch.Proofs.Clause.Frame
import FileSearch.Proofs.Clause.Reading

namespace FileSearch

open Text (Symbol)

namespace Text.Symbol

variable {value : List Char}

/-- Behind a text without quotes such a literal is read as one literal. -/
theorem Enclosed.exists_reading_append (single : Enclosed value) (text : List Char)
    (noQuote : '\'' ∉ text) :
    ∃ found : String, symbols? (text ++ Text.literal value) =
      some (word text ++ [.literal found.toList]) := by
  obtain ⟨found, read⟩ := single.exists_literal
  have behind := read []
  rw [List.append_nil] at behind
  refine ⟨String.ofList found, ?_⟩
  rw [symbols?_word_append noQuote, behind, String.toList_ofList]
  rfl

/-- In front of a text without quotes such a literal is read as one literal. -/
theorem Enclosed.exists_reading_cons (single : Enclosed value) (text : List Char)
    (noQuote : '\'' ∉ text) :
    ∃ found : String, symbols? (Text.literal value ++ text) =
      some (.literal found.toList :: word text) := by
  obtain ⟨found, read⟩ := single.exists_literal
  refine ⟨String.ofList found, ?_⟩
  rw [read, symbols?_word noQuote, String.toList_ofList]
  rfl

end Text.Symbol

/-- An atom is read as an atom, perhaps with another literal, unless its literal ends too early or
too late. -/
theorem Atom.exists_reading {condition : Atom}
    (enclosed : ∀ value ∈ Symbol.literals condition.symbols, Symbol.Enclosed value) :
    ∃ reading : Atom, Text.symbols? condition.text = some reading.symbols := by
  rw [literals_symbols] at enclosed
  cases condition with
  | matching field value =>
    have single : Symbol.Enclosed value.toList := enclosed _ List.mem_cons_self
    cases field with
    | name =>
      obtain ⟨found, read⟩ := single.exists_reading_append "name contains ".toList (by decide)
      exact ⟨.matching .name found, read⟩
    | mimeType =>
      obtain ⟨found, read⟩ := single.exists_reading_append "mimeType = ".toList (by decide)
      exact ⟨.matching .mimeType found, read⟩
    | fullText =>
      obtain ⟨found, read⟩ := single.exists_reading_append "fullText contains ".toList (by decide)
      exact ⟨.matching .fullText found, read⟩
    | parentId =>
      obtain ⟨found, read⟩ := single.exists_reading_cons " in parents".toList (by decide)
      exact ⟨.matching .parentId found, read⟩
    | owner =>
      obtain ⟨found, read⟩ := single.exists_reading_cons " in owners".toList (by decide)
      exact ⟨.matching .owner found, read⟩
  | marked flag value =>
    refine ⟨.marked flag value, ?_⟩
    rw [← spell_symbols]
    exact Symbol.symbols?_spell (faithful_symbols fun value literal => by cases literal)
  | modifiedNotBefore bound =>
    have single : Symbol.Enclosed bound.toList := enclosed _ List.mem_cons_self
    obtain ⟨found, read⟩ := single.exists_reading_append "modifiedTime >= ".toList (by decide)
    exact ⟨.modifiedNotBefore found, read⟩
  | modifiedBefore bound =>
    have single : Symbol.Enclosed bound.toList := enclosed _ List.mem_cons_self
    obtain ⟨found, read⟩ := single.exists_reading_append "modifiedTime < ".toList (by decide)
    exact ⟨.modifiedBefore found, read⟩

theorem Query.holds_of_joinAll {first query : Query} {others : List Query} {truth : Atom → Bool}
    (bind : ∀ found ∈ first :: others, found.isConjunction) (member : query ∈ first :: others)
    (holds : (joinAll .conjunction first others).holds truth) : query.holds truth := by
  rw [holds_joinAll_conjunction truth bind] at holds
  exact List.all_eq_true.mp holds query member

namespace Clause

/-- No clause around such a clause takes it apart. -/
def Bound (clause : Clause) : Prop :=
  ∃ query, Query.parse? clause.text = some query ∧ query.isConjunction

theorem kept_bound : Kept Bound Readable where
  alone := by
    rintro clause ⟨query, read, _⟩
    exact ⟨query, read⟩
  joined := by
    intro connective first others bound
    apply kept_readable.joined
    intro clause member
    obtain ⟨query, read, _⟩ := bound clause member
    exact ⟨query, read⟩
  grouped := by
    rintro clause ⟨query, read⟩
    exact ⟨_, parse?_grouped read, rfl⟩
  negated := by
    rintro clause ⟨query, read⟩
    exact ⟨_, parse?_negated read, rfl⟩

theorem bound_atom {condition : Atom}
    (enclosed : ∀ value ∈ Symbol.literals condition.symbols, Symbol.Enclosed value) :
    Bound (.atom condition) := by
  obtain ⟨reading, read⟩ := condition.exists_reading enclosed
  exact ⟨.ofFactor (.atom reading), Query.parse?_eq_some_iff.mpr read, rfl⟩

/-- Every file that satisfies such a clause satisfies the condition, whatever is joined to it. -/
def Demands (condition : Atom) (clause : Clause) : Prop :=
  ∃ query, Query.parse? clause.text = some query ∧ query.isConjunction ∧
    ∀ truth, query.holds truth → truth condition

variable {condition : Atom} {clause : Clause} {parts : List Clause}

theorem Demands.bound (demands : Demands condition clause) : Bound clause := by
  obtain ⟨query, read, bind, _⟩ := demands
  exact ⟨query, read, bind⟩

theorem demands_atom (plain : condition.Plain) : Demands condition (.atom condition) :=
  ⟨_, parse?_atom plain, rfl, fun _ holds => holds⟩

theorem Demands.grouped (demands : Demands condition clause) :
    Demands condition (.grouped clause) := by
  obtain ⟨query, read, _, needed⟩ := demands
  exact ⟨_, parse?_grouped read, rfl, needed⟩

theorem demands_joined (bound : ∀ part ∈ parts, Bound part) (member : clause ∈ parts)
    (demands : Demands condition clause) : Demands condition (.joined .conjunction parts) := by
  obtain ⟨query, read, _, needed⟩ := demands
  choose! reading reads binds using bound
  cases parts with
  | nil => cases member
  | cons first others =>
    have bind : ∀ found ∈ (first :: others).map reading, found.isConjunction := by
      rw [List.forall_mem_map]
      exact binds
    refine ⟨_, parse?_joined .conjunction (read_map reads), Query.isConjunction_joinAll bind, ?_⟩
    intro truth holds
    have same : reading clause = query := Option.some.inj ((reads clause member).symm.trans read)
    apply needed
    rw [← same]
    exact Query.holds_of_joinAll bind (List.mem_map_of_mem member) holds

theorem demands_join (bound : ∀ part ∈ parts, Bound part) (member : clause ∈ parts)
    (demands : Demands condition clause) :
    ∃ whole, join .conjunction parts = some whole ∧ Demands condition whole := by
  match parts with
  | [] => cases member
  | [only] =>
    cases List.mem_singleton.mp member
    exact ⟨clause, rfl, demands⟩
  | first :: second :: others => exact ⟨_, rfl, demands_joined bound member demands⟩

theorem demands_chain (bound : ∀ part ∈ parts, Bound part) (member : clause ∈ parts)
    (demands : Demands condition clause) :
    ∃ whole, chain .conjunction parts = some whole ∧ Demands condition whole := by
  match parts with
  | [] => cases member
  | [only] =>
    cases List.mem_singleton.mp member
    exact ⟨clause, rfl, demands⟩
  | first :: second :: others => exact ⟨_, rfl, (demands_joined bound member demands).grouped⟩

/-- The combined parts can be disjunctions, since they are put in parentheses where others stand
beside them. -/
theorem demands_assemble (atRoot : Bool) {combined others : List Clause}
    (readable : ∀ part ∈ combined, Readable part) (bound : ∀ part ∈ others, Bound part)
    (member : clause ∈ combined ++ others) (demands : Demands condition clause) :
    ∃ whole, Emission.assemble atRoot combined others = some whole ∧ Demands condition whole := by
  have chained : ∃ whole, chain .conjunction (combined.map .grouped ++ others) = some whole ∧
      Demands condition whole := by
    have each : ∀ part ∈ combined.map .grouped ++ others, Bound part := by
      rw [List.forall_mem_append, List.forall_mem_map]
      exact ⟨fun part found => kept_bound.grouped (readable part found), bound⟩
    rcases List.mem_append.mp member with inside | inside
    · have listed : Clause.grouped clause ∈ combined.map .grouped ++ others :=
        List.mem_append_left _ (List.mem_map_of_mem inside)
      exact demands_chain each listed demands.grouped
    · exact demands_chain each (List.mem_append_right _ inside) demands
  unfold Emission.assemble
  split
  · next only single =>
    rw [single, List.mem_singleton] at member
    exact ⟨only, rfl, member ▸ demands⟩
  · exact chained

end Clause

end FileSearch
