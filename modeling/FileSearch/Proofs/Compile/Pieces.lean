/-
This file shows that a list of operands can be compiled in pieces: the query of the whole list is
that of its pieces joined, and so is its summary.
-/

import FileSearch.Proofs.Compile.Combinators
import FileSearch.Proofs.Compile.Refusal
import FileSearch.Proofs.Compile.Repair
import FileSearch.Proofs.Compile.Summary

namespace FileSearch

/-- The connective stands between two texts unless one of them is empty. -/
def Connective.link (connective : Connective) (first second : List Char) : List Char :=
  if first = [] then second
  else if second = [] then first
  else first ++ connective.separator ++ second

namespace Clause

theorem joinedText_ne_nil (connective : Connective) {first : Clause} (others : List Clause)
    (written : first.text ≠ []) : joinedText connective (first :: others) ≠ [] := by
  rw [joinedText_cons]
  exact List.append_ne_nil_of_left_ne_nil written _

theorem joinedText_eq_nil_iff (connective : Connective) {parts : List Clause}
    (written : ∀ part ∈ parts, part.text ≠ []) : joinedText connective parts = [] ↔ parts = [] := by
  cases parts with
  | nil => exact iff_of_true rfl rfl
  | cons first others =>
    refine iff_of_false ?_ (List.cons_ne_nil first others)
    exact joinedText_ne_nil connective others (written first List.mem_cons_self)

/-- The texts of two lists of clauses are linked. -/
theorem joinedText_append (connective : Connective) {first second : List Clause}
    (written : ∀ part ∈ first ++ second, part.text ≠ []) :
    joinedText connective (first ++ second) =
      connective.link (joinedText connective first) (joinedText connective second) := by
  rw [List.forall_mem_append] at written
  simp only [Connective.link, joinedText_eq_nil_iff connective written.1,
    joinedText_eq_nil_iff connective written.2]
  split_ifs with noFirst noSecond
  · rw [noFirst, List.nil_append]
  · rw [noSecond, List.append_nil]
  · obtain ⟨opening, others, rfl⟩ := List.exists_cons_of_ne_nil noFirst
    obtain ⟨next, rest, rfl⟩ := List.exists_cons_of_ne_nil noSecond
    rw [List.cons_append, joinedText_cons, joinedText_cons, joinedText_cons, List.flatMap_append,
      List.flatMap_cons]
    simp only [List.append_assoc]

end Clause

namespace Expression

section

variable (connective : Connective) (children : List Expression)

theorem atoms_combine : (combine connective children).atoms = children.flatMap atoms := by
  obtain ⟨parts, node, same, none⟩ := exists_node_combine connective children
  rw [node, atoms_node, same, none]
  exact List.append_nil _

theorem rawTexts_combine : (combine connective children).rawTexts = children.flatMap rawTexts := by
  obtain ⟨parts, node, same, none⟩ := exists_node_combine connective children
  rw [node, rawTexts_node, same, none]
  exact List.append_nil _

/-- A combination fails with the first violation of its operands. -/
theorem compile_combine_eq_error_iff (violation : Violation) :
    (combine connective children).compile = .error violation ↔
      children.findSome? violation? = some violation := by
  rw [compile_eq_error_iff_violation?, violation?_combine]

theorem exists_compile_combine_iff :
    (∃ compiled, (combine connective children).compile = .ok compiled) ↔
      children.findSome? violation? = none := by
  rw [← violation?_combine connective]
  obtain ⟨parts, node, _⟩ := exists_node_combine connective children
  simp only [node, compile_node_eq_ok_iff, exists_and_left, exists_eq, and_true]

end

/-- The clause of an expression has a text. -/
theorem written_clause (expression : Expression) :
    ∀ clause ∈ expression.clause?, clause.text ≠ [] := by
  intro clause emitted
  have visible := expression.keeps_visible.clause Clause.kept_visible clause emitted
  exact visible.text_ne_nil

variable {connective : Connective} {children : List Expression} {compiled : Compiled}

/-- The query of a combination consists of the clauses of its operands. -/
theorem toList_compile_combine (anchored : ∀ child ∈ children, child.RawAnchored)
    (compiles : (combine connective children).compile = .ok compiled) :
    compiled.queryString.toList =
      Clause.joinedText connective ((children.map clause?).filterMap id) := by
  have raw : (combine connective children).RawAnchored := by
    intro text member
    rw [rawTexts_combine, List.mem_flatMap] at member
    obtain ⟨child, operand, inside⟩ := member
    exact anchored child operand text inside
  have root := rootClause?_combine connective children
  have text := anchored_rootClause raw
  obtain ⟨parts, node, _⟩ := exists_node_combine connective children
  rw [node] at compiles root text
  rw [(compile_node_eq_ok_iff.mp compiles).2, Compiled.ofClause_of_anchored text,
    String.toList_ofList, root, Clause.textOf_join]

section

variable {first second : List Expression} {front back whole : Compiled}
  (compiles : (combine connective first).compile = .ok front)
  (continues : (combine connective second).compile = .ok back)
  (succeeds : (combine connective (first ++ second)).compile = .ok whole)

include compiles continues succeeds

theorem toList_compile_append (anchored : ∀ child ∈ first ++ second, child.RawAnchored) :
    whole.queryString.toList =
      connective.link front.queryString.toList back.queryString.toList := by
  rw [toList_compile_combine anchored succeeds]
  rw [List.forall_mem_append] at anchored
  rw [toList_compile_combine anchored.1 compiles, toList_compile_combine anchored.2 continues,
    List.map_append, List.filterMap_append]
  apply Clause.joinedText_append
  rw [← List.filterMap_append, ← List.map_append]
  apply forall_mem_filterMap_id
  rw [List.forall_mem_map]
  exact fun child _ => child.written_clause

theorem values_compile_append (field : Field) :
    whole.filters.values.get field =
      front.filters.values.get field ++ back.filters.values.get field := by
  rw [values_filters succeeds, values_filters compiles, values_filters continues, atoms_combine,
    atoms_combine, atoms_combine, List.flatMap_append, List.filterMap_append]

theorem flags_compile_append (flag : Flag) :
    whole.filters.flags.get flag =
      (back.filters.flags.get flag).or (front.filters.flags.get flag) := by
  rw [flags_filters succeeds, flags_filters compiles, flags_filters continues, atoms_combine,
    atoms_combine, atoms_combine, List.flatMap_append, List.filterMap_append, List.getLast?_append]

end

/-- The operands of a combination can be compiled in pieces. Where both pieces compile, their
queries are joined, their values stand behind one another and the later flags count. Else the first
failure counts. -/
theorem compile_combine_append (connective : Connective) {first second : List Expression}
    (anchored : ∀ child ∈ first ++ second, child.RawAnchored) :
    (∀ front back, (combine connective first).compile = .ok front →
      (combine connective second).compile = .ok back →
      ∃ whole, (combine connective (first ++ second)).compile = .ok whole ∧
        whole.queryString.toList =
          connective.link front.queryString.toList back.queryString.toList ∧
        (∀ field, whole.filters.values.get field =
          front.filters.values.get field ++ back.filters.values.get field) ∧
        ∀ flag, whole.filters.flags.get flag =
          (back.filters.flags.get flag).or (front.filters.flags.get flag)) ∧
    (∀ violation, (combine connective first).compile = .error violation →
      (combine connective (first ++ second)).compile = .error violation) ∧
    ∀ front violation, (combine connective first).compile = .ok front →
      (combine connective second).compile = .error violation →
      (combine connective (first ++ second)).compile = .error violation := by
  -- The first violation among all operands decides between the three cases.
  have search : (first ++ second).findSome? violation? =
      (first.findSome? violation?).or (second.findSome? violation?) := List.findSome?_append
  have accepted (children : List Expression) := exists_compile_combine_iff connective children
  refine ⟨fun front back compiles continues => ?_, fun violation fails => ?_,
    fun front violation compiles fails => ?_⟩
  · obtain ⟨whole, succeeds⟩ :
        ∃ whole, (combine connective (first ++ second)).compile = .ok whole := by
      rw [accepted, search, (accepted first).mp ⟨front, compiles⟩, Option.none_or]
      exact (accepted second).mp ⟨back, continues⟩
    exact ⟨whole, succeeds, toList_compile_append compiles continues succeeds anchored,
      values_compile_append compiles continues succeeds,
      flags_compile_append compiles continues succeeds⟩
  · rw [compile_combine_eq_error_iff] at fails ⊢
    rw [search, fails, Option.some_or]
  · rw [compile_combine_eq_error_iff] at fails ⊢
    rw [search, (accepted first).mp ⟨front, compiles⟩, Option.none_or, fails]

/-- These operands have a raw text with both connectives and a blank one. -/
def starredFirst : List Expression :=
  [.raw "starred = true and (trashed = false or 'me' in owners)", .raw "\t",
    (empty.setFlag .starred (some true)).setField .name (.plain "draft")]

/-- These operands repeat a value and a flag. -/
def starredLast : List Expression :=
  [empty.setNegation (empty.setField .name (.operator (.ofAll ["old", "draft"]))),
    empty.setFlag .starred (some false)]

theorem compile_combine_append_starred :
    ∃ front back whole, (combine .disjunction starredFirst).compile = .ok front ∧
      (combine .disjunction starredLast).compile = .ok back ∧
      (combine .disjunction (starredFirst ++ starredLast)).compile = .ok whole ∧
      front.queryString = "starred = true and (trashed = false or 'me' in owners)" ++
        " or (starred = true and name contains 'draft')" ∧
      back.queryString = "not ((name contains 'old' and name contains 'draft'))" ++
        " or starred = false" ∧
      whole.queryString.toList =
        Connective.link .disjunction front.queryString.toList back.queryString.toList ∧
      whole.queryString = "starred = true and (trashed = false or 'me' in owners)" ++
        " or (starred = true and name contains 'draft')" ++
        " or " ++ "not ((name contains 'old' and name contains 'draft'))" ++ " or starred = false" ∧
      whole.filters.values.get .name = ["draft", "old", "draft"] ∧
      whole.filters.flags.get .starred = some false := by
  have anchored : ∀ child ∈ starredFirst ++ starredLast, child.RawAnchored := by decide
  obtain ⟨front, compiles, frontText, frontNames⟩ :
      ∃ front, (combine .disjunction starredFirst).compile = .ok front ∧
        front.queryString = "starred = true and (trashed = false or 'me' in owners)" ++
          " or (starred = true and name contains 'draft')" ∧
        front.filters.values.get .name = ["draft"] :=
    ⟨_, (compile_node _).trans rfl, by decide +kernel, rfl⟩
  obtain ⟨back, continues, backText, backNames, backFlag⟩ :
      ∃ back, (combine .disjunction starredLast).compile = .ok back ∧
        back.queryString = "not ((name contains 'old' and name contains 'draft'))" ++
          " or starred = false" ∧
        back.filters.values.get .name = ["old", "draft"] ∧
        back.filters.flags.get .starred = some false :=
    ⟨_, (compile_node _).trans rfl, by decide +kernel, rfl, rfl⟩
  obtain ⟨joins, _⟩ := compile_combine_append .disjunction anchored
  obtain ⟨whole, succeeds, query, values, flags⟩ := joins front back compiles continues
  refine ⟨front, back, whole, compiles, continues, succeeds, frontText, backText, query, ?_, ?_, ?_⟩
  · have separator : Connective.separator .disjunction = " or ".toList := by decide
    rw [← String.toList_inj, query, frontText, backText, Connective.link, if_neg (by simp),
      if_neg (by simp), separator]
    simp only [String.toList_append, List.append_assoc]
  · rw [values, frontNames, backNames]
    rfl
  · rw [flags, backFlag]
    rfl

end Expression

end FileSearch
