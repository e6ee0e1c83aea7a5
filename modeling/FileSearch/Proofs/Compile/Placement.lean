/-
This file compares a node at the root with the same node inside another one. Inside, a group that is
the only visible part of the node has a pair of parentheses more, and nothing else differs.
-/

import FileSearch.Proofs.Clause.Frame
import FileSearch.Proofs.Emission

namespace FileSearch

open Clause (textOf)

/-- The text of a part is not blank. -/
def Clause.isShown (part : Option Clause) : Bool :=
  !Text.isBlank (textOf part)

/-- All parts that are there are shown. -/
theorem Clause.countP_isShown {parts : List (Option Clause)}
    (visible : ∀ clause ∈ parts.filterMap id, Visible clause) :
    parts.countP isShown = (parts.filterMap id).length := by
  induction parts with
  | nil => rfl
  | cons part parts inductionHypothesis =>
    cases part with
    | none => exact inductionHypothesis visible
    | some clause =>
      rw [filterMap_id_cons, Option.toList_some, List.singleton_append] at visible ⊢
      rw [List.forall_mem_cons] at visible
      have shown : isShown (some clause) = true := congrArg not visible.1
      rw [List.countP_cons_of_pos shown, List.length_cons, inductionHypothesis visible.2]

/-- Parentheses make a text longer. -/
theorem Clause.ne_bracket (text : List Char) : text ≠ "(".toList ++ (text ++ ")".toList) := by
  intro same
  have lengths := congrArg List.length same
  rw [List.length_append, List.length_append] at lengths
  have opening : "(".toList.length = 1 := rfl
  omega

/-- The place of a node matters only where a group stands alone. -/
theorem Emission.assemble_root_eq {combined others : List Clause}
    (several : ¬ ((∃ group, combined = [group]) ∧ others = [])) :
    assemble true combined others = assemble false combined others := by
  match combined, others with
  | [], [] => rfl
  | [], [only] => rfl
  | [], first :: second :: rest => rfl
  | [group], [] => exact absurd ⟨⟨group, rfl⟩, rfl⟩ several
  | [group], first :: rest => rfl
  | first :: second :: rest, others => rfl

namespace Fragments

/-- One part is shown, and it is a group. -/
def LoneGroup (fragments : Fragments) : Prop :=
  (fragments.groups ++ fragments.others).countP Clause.isShown = 1 ∧
    ∃ group ∈ fragments.groups, Clause.isShown group

variable (fragments : Fragments)
  (visibleGroups : ∀ clause ∈ fragments.groups.filterMap id, clause.Visible)
  (visibleOthers : ∀ clause ∈ fragments.others.filterMap id, clause.Visible)

include visibleGroups visibleOthers

theorem loneGroup_iff :
    fragments.LoneGroup ↔
      (∃ group, fragments.groups.filterMap id = [group]) ∧
        fragments.others.filterMap id = [] := by
  rw [LoneGroup, List.countP_append, ← List.countP_pos_iff, Clause.countP_isShown visibleGroups,
    Clause.countP_isShown visibleOthers, ← List.length_eq_one_iff, ← List.length_eq_zero_iff]
  omega

theorem textOf_assemble :
    (textOf (fragments.assemble false) = textOf (fragments.assemble true) ∨
      textOf (fragments.assemble false) =
        "(".toList ++ (textOf (fragments.assemble true) ++ ")".toList)) ∧
    (textOf (fragments.assemble false) =
        "(".toList ++ (textOf (fragments.assemble true) ++ ")".toList) ↔
      fragments.LoneGroup) := by
  rw [loneGroup_iff fragments visibleGroups visibleOthers, assemble, assemble]
  by_cases alone : (∃ group, fragments.groups.filterMap id = [group]) ∧
      fragments.others.filterMap id = []
  · obtain ⟨⟨group, single⟩, nothing⟩ := alone
    rw [single, nothing]
    exact ⟨.inr rfl, iff_of_true rfl ⟨⟨group, rfl⟩, rfl⟩⟩
  · rw [Emission.assemble_root_eq alone]
    exact ⟨.inl rfl, iff_of_false (Clause.ne_bracket _) alone⟩

end Fragments

namespace Emission

/-- The place of a node does not matter for its refusal and its records. Inside another node its
text is the one at the root, or this text in parentheses; they are put around it exactly where a
group of conjuncts or of disjuncts is the only part that is not blank. -/
theorem node_wraps_lone_group (parts : Node Expression) (summary : Summary) :
    (∃ violation, (node true parts).run summary = .error violation ∧
      (node false parts).run summary = .error violation) ∨
    ∃ found root nested filters, (fragments parts).run summary = .ok (found, filters) ∧
      (node true parts).run summary = .ok (root, filters) ∧
      (node false parts).run summary = .ok (nested, filters) ∧
      (textOf nested = textOf root ∨
        textOf nested = "(".toList ++ (textOf root ++ ")".toList)) ∧
      (textOf nested = "(".toList ++ (textOf root ++ ")".toList) ↔ found.LoneGroup) := by
  have emitted := fragments_yields parts (fun child _ => reads child) summary
  have placed (atRoot : Bool) := node_yields atRoot parts (fun child _ => reads child) summary
  cases refused : (Expression.node parts).violation? with
  | some violation =>
    simp only [refused] at placed
    exact .inl ⟨violation, placed true, placed false⟩
  | none =>
    simp only [refused] at emitted placed
    have keep : ∀ child ∈ (parts.map Expression.clause?).children, ∀ clause ∈ child,
        clause.Visible := by
      rw [Node.children_map, List.forall_mem_map]
      exact fun child _ => child.keeps_visible.clause Clause.kept_visible
    have own := (Expression.node parts).keeps_visible.conditions Clause.kept_visible
    have texts := Fragments.textOf_assemble (parts.map Expression.clause?).fragments
      (Clause.kept_visible.combined keep) (Clause.kept_visible.others keep own)
    exact .inr ⟨_, _, _, _, emitted, placed true, placed false, texts⟩

end Emission

end FileSearch
