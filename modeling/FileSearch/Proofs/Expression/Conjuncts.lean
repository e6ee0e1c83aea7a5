/-
This file follows the conjuncts of an expression. What a node sets that is reached through conjuncts
only is needed by every file that satisfies the expression.
-/

import FileSearch.Proofs.Expression.Meaning

namespace FileSearch

namespace Connective

/-- A verdict of a conjunction that is positive needs each of its parts. -/
theorem exists_verdict?_of_mem {part : Bool} {parts : List Bool} (member : part ∈ parts) :
    ∃ verdict, conjunction.verdict? parts = some verdict ∧ (verdict = true → part = true) := by
  cases parts with
  | nil => cases member
  | cons first others =>
    refine ⟨_, rfl, fun positive => ?_⟩
    exact List.all_eq_true.mp positive part member

end Connective

theorem Node.exists_verdict?_of_part {node : Node (Option Bool)} {part : Bool}
    {truth : Atom → Bool} (member : some part ∈ node.partVerdicts truth) :
    ∃ verdict, node.verdict? truth = some verdict ∧ (verdict = true → part = true) :=
  Connective.exists_verdict?_of_mem (List.mem_filterMap.mpr ⟨some part, member, rfl⟩)

namespace Expression

/-- This relation follows the conjuncts of nodes down to an expression. -/
inductive Reaches : Expression → Expression → Prop where
  | self {expression : Expression} : Reaches expression expression
  | conjunct {parts : Node Expression} {child target : Expression}
      (member : child ∈ parts.conjuncts.getD []) (reaches : Reaches child target) :
      Reaches (.node parts) target

theorem someConstrainsTrashed_iff (children : List Expression) :
    someConstrainsTrashed children = true ↔ ∃ child ∈ children, constrainsTrashed child = true := by
  induction children with
  | nil => simp [someConstrainsTrashed]
  | cons child children inductionHypothesis =>
    rw [someConstrainsTrashed, Bool.or_eq_true, inductionHypothesis, List.exists_mem_cons_iff]

theorem constrainsTrashed_node_iff (parts : Node Expression) :
    constrainsTrashed (.node parts) = true ↔
      (parts.conditions.flags.get .trashed).isSome = true ∨
        ∃ child ∈ parts.conjuncts.getD [], constrainsTrashed child = true := by
  obtain ⟨conjuncts, disjuncts, negation, conditions⟩ := parts
  rw [constrainsTrashed, nodeConstrainsTrashed, Bool.or_eq_true]
  cases conjuncts with
  | none => simp [groupConstrainsTrashed]
  | some children => rw [groupConstrainsTrashed, someConstrainsTrashed_iff, Option.getD_some]

theorem mem_children_of_conjunct {parts : Node Expression} {child : Expression}
    (member : child ∈ parts.conjuncts.getD []) : child ∈ parts.children := by
  rw [Node.children, List.append_assoc]
  exact List.mem_append_left _ member

/-- An expression settles the trash flag at a node that is reached through conjuncts only. -/
theorem exists_reached_of_constrainsTrashed {expression : Expression}
    (constrains : expression.constrainsTrashed = true) :
    ∃ parts value, Reaches expression (.node parts) ∧
      parts.conditions.flags.get .trashed = some value := by
  induction expression using induct with
  | atRaw text => cases constrains
  | atNode parts inductionHypothesis =>
    rcases (constrainsTrashed_node_iff parts).mp constrains with own | ⟨child, member, inner⟩
    · obtain ⟨value, found⟩ := Option.isSome_iff_exists.mp own
      exact ⟨parts, value, .self, found⟩
    · have inside := mem_children_of_conjunct member
      obtain ⟨target, value, reaches, found⟩ := inductionHypothesis child inside inner
      exact ⟨target, value, .conjunct member reaches, found⟩

/-- A flag that a node sets is one of the verdicts of its conditions. -/
theorem mem_verdicts {conditions : Conditions} {flag : Flag} {value : Bool} (truth : Atom → Bool)
    (found : conditions.flags.get flag = some value) :
    truth (.marked flag value) ∈ conditions.verdicts truth := by
  rw [Conditions.verdicts, List.append_assoc, List.append_assoc]
  refine List.mem_append_left _ (List.mem_filterMap.mpr ⟨flag, flag.mem_all, ?_⟩)
  rw [found]
  rfl

/-- A file that satisfies an expression satisfies the flags of every node that is reached through
conjuncts only. -/
theorem exists_verdict?_of_reaches {expression : Expression} {target : Node Expression}
    {flag : Flag} {value : Bool} (truth : Atom → Bool) (reaches : Reaches expression (.node target))
    (found : target.conditions.flags.get flag = some value) :
    ∃ verdict, expression.verdict? truth = some verdict ∧
      (verdict = true → truth (.marked flag value) = true) := by
  generalize same : node target = goal at reaches
  induction reaches with
  | self =>
    subst same
    obtain ⟨inner, judged, needed⟩ :=
      Connective.exists_verdict?_of_mem (mem_verdicts truth found)
    have member : some inner ∈ (target.map (verdict? truth)).partVerdicts truth := by
      rw [← judged]
      simp [Node.partVerdicts, Node.map]
    obtain ⟨verdict, whole, needsInner⟩ := Node.exists_verdict?_of_part member
    exact ⟨verdict, (verdict?_node truth target).trans whole, needed ∘ needsInner⟩
  | @conjunct parts child _ conjunct _ inductionHypothesis =>
    obtain ⟨inner, judged, needed⟩ := inductionHypothesis same
    have listed : inner ∈ ((parts.conjuncts.map (List.map (verdict? truth))).getD []).filterMap
        id := by
      refine List.mem_filterMap.mpr ⟨some inner, ?_, rfl⟩
      rw [← judged]
      cases conjuncts : parts.conjuncts with
      | none => simp [conjuncts] at conjunct
      | some children =>
        rw [conjuncts] at conjunct
        exact List.mem_map_of_mem conjunct
    obtain ⟨group, grouped, needsChild⟩ := Connective.exists_verdict?_of_mem listed
    have member : some group ∈ (parts.map (verdict? truth)).partVerdicts truth := by
      rw [← grouped]
      exact List.mem_cons_self
    obtain ⟨verdict, whole, needsGroup⟩ := Node.exists_verdict?_of_part member
    exact ⟨verdict, (verdict?_node truth parts).trans whole, needed ∘ needsChild ∘ needsGroup⟩

end Expression

end FileSearch
