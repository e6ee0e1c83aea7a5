/-
This file gives the recursion and the induction over expressions. A node holds its children in three
places; a step at a node sees their results in the same places.
-/

import FileSearch.Expression.Basic

namespace FileSearch

namespace Node

variable {Child Result : Type}

/-- The conjuncts come first, then the disjuncts and the negation. -/
def children (node : Node Child) : List Child :=
  node.conjuncts.getD [] ++ node.disjuncts.getD [] ++ node.negation.toList

/-- This function changes every child in its place. -/
def map (change : Child → Result) (node : Node Child) : Node Result where
  conjuncts := node.conjuncts.map (List.map change)
  disjuncts := node.disjuncts.map (List.map change)
  negation := node.negation.map change
  conditions := node.conditions

@[simp]
theorem children_map (change : Child → Result) (node : Node Child) :
    (node.map change).children = node.children.map change := by
  cases node with
  | mk conjuncts disjuncts negation conditions =>
    cases conjuncts <;> cases disjuncts <;> cases negation <;> simp [children, map]

theorem map_map {Other : Type} (first : Child → Result) (second : Result → Other)
    (node : Node Child) :
    (node.map first).map second = node.map fun child => second (first child) := by
  cases node with
  | mk conjuncts disjuncts negation conditions =>
    cases conjuncts <;> cases disjuncts <;> cases negation <;> simp [map]

theorem map_congr {first second : Child → Result} {node : Node Child}
    (same : ∀ child ∈ node.children, first child = second child) :
    node.map first = node.map second := by
  cases node with
  | mk conjuncts disjuncts negation conditions =>
    cases conjuncts <;> cases disjuncts <;> cases negation <;> simp_all [children, map]

end Node

namespace Expression

section

variable {Result : Type} (atRaw : String → Result) (atNode : Node Result → Result)

mutual

/-- This function takes a step at each raw text and at each node, where the children have been
replaced by their results. -/
def fold : Expression → Result
  | .raw text => atRaw text
  | .node parts => atNode (foldNode parts)

def foldNode : Node Expression → Node Result
  | ⟨conjuncts, disjuncts, negation, conditions⟩ =>
    ⟨foldGroup conjuncts, foldGroup disjuncts, foldNegation negation, conditions⟩

def foldGroup : Option (List Expression) → Option (List Result)
  | none => none
  | some children => some (foldList children)

def foldNegation : Option Expression → Option Result
  | none => none
  | some child => some (fold child)

def foldList : List Expression → List Result
  | [] => []
  | child :: children => fold child :: foldList children

end

theorem foldList_eq_map (children : List Expression) :
    foldList atRaw atNode children = children.map (fold atRaw atNode) := by
  induction children with
  | nil => rfl
  | cons child children inductionHypothesis =>
    rw [foldList, inductionHypothesis, List.map_cons]

@[simp]
theorem fold_node (parts : Node Expression) :
    fold atRaw atNode (.node parts) = atNode (parts.map (fold atRaw atNode)) := by
  cases parts with
  | mk conjuncts disjuncts negation conditions =>
    cases conjuncts <;> cases disjuncts <;> cases negation <;>
      simp only [fold, foldNode, foldGroup, foldNegation, foldList_eq_map, Node.map,
        Option.map_none, Option.map_some]

end

section

variable {motive : Expression → Prop} (atRaw : ∀ text, motive (.raw text))
  (atNode : ∀ parts, (∀ child ∈ parts.children, motive child) → motive (.node parts))

include atRaw atNode

set_option linter.unusedSectionVars false

mutual

/-- A property holds of all expressions when each node passes it on from its children. -/
@[elab_as_elim]
theorem induct : (expression : Expression) → motive expression
  | .raw text => atRaw text
  | .node parts => atNode parts (inductNode parts)

theorem inductNode : (parts : Node Expression) → ∀ child ∈ parts.children, motive child
  | ⟨conjuncts, disjuncts, negation, _⟩ => by
    intro child member
    simp only [Node.children, List.mem_append, Option.mem_toList] at member
    rcases member with (conjunct | disjunct) | negated
    · exact inductGroup conjuncts child conjunct
    · exact inductGroup disjuncts child disjunct
    · exact inductNegation negation child negated

theorem inductGroup : (group : Option (List Expression)) → ∀ child ∈ group.getD [], motive child
  | none => List.forall_mem_nil _
  | some children => inductList children

theorem inductNegation : (negation : Option Expression) → ∀ child ∈ negation, motive child
  | none => by
    intro child member
    cases member
  | some inner => by
    intro child member
    cases member
    exact induct inner

theorem inductList : (children : List Expression) → ∀ child ∈ children, motive child
  | [] => List.forall_mem_nil _
  | child :: children => List.forall_mem_cons.mpr ⟨induct child, inductList children⟩

end

end

end Expression

end FileSearch
