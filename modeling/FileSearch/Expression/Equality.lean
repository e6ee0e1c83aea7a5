/-
This file decides whether two expressions are the same tree.
-/

import FileSearch.Expression.Basic

namespace FileSearch.Expression

mutual

/-- This function compares two expressions part by part. -/
def same : Expression → Expression → Bool
  | .raw first, .raw second => first = second
  | .node first, .node second => sameNode first second
  | _, _ => false

def sameNode : Node Expression → Node Expression → Bool
  | ⟨conjuncts, disjuncts, negation, conditions⟩, other =>
    sameGroup conjuncts other.conjuncts && sameGroup disjuncts other.disjuncts &&
      sameNegation negation other.negation && conditions = other.conditions

def sameGroup : Option (List Expression) → Option (List Expression) → Bool
  | none, none => true
  | some first, some second => sameList first second
  | _, _ => false

def sameNegation : Option Expression → Option Expression → Bool
  | none, none => true
  | some first, some second => same first second
  | _, _ => false

def sameList : List Expression → List Expression → Bool
  | [], [] => true
  | first :: firsts, second :: seconds => same first second && sameList firsts seconds
  | _, _ => false

end

mutual

theorem same_iff : (first second : Expression) → (same first second = true ↔ first = second)
  | .raw _, .raw _ => by simp [same]
  | .raw _, .node _ => by simp [same]
  | .node _, .raw _ => by simp [same]
  | .node first, .node second => by simp [same, sameNode_iff first second]

theorem sameNode_iff :
    (first second : Node Expression) → (sameNode first second = true ↔ first = second)
  | ⟨conjuncts, disjuncts, negation, conditions⟩, ⟨_, _, _, _⟩ => by
    simp [sameNode, sameGroup_iff conjuncts, sameGroup_iff disjuncts, sameNegation_iff negation,
      and_assoc]

theorem sameGroup_iff :
    (first second : Option (List Expression)) → (sameGroup first second = true ↔ first = second)
  | none, none => by simp [sameGroup]
  | none, some _ => by simp [sameGroup]
  | some _, none => by simp [sameGroup]
  | some first, some second => by simp [sameGroup, sameList_iff first second]

theorem sameNegation_iff :
    (first second : Option Expression) → (sameNegation first second = true ↔ first = second)
  | none, none => by simp [sameNegation]
  | none, some _ => by simp [sameNegation]
  | some _, none => by simp [sameNegation]
  | some first, some second => by simp [sameNegation, same_iff first second]

theorem sameList_iff :
    (first second : List Expression) → (sameList first second = true ↔ first = second)
  | [], [] => by simp [sameList]
  | [], _ :: _ => by simp [sameList]
  | _ :: _, [] => by simp [sameList]
  | first :: firsts, second :: seconds => by
    simp [sameList, same_iff first second, sameList_iff firsts seconds]

end

instance : DecidableEq Expression := fun first second =>
  decidable_of_iff (same first second = true) (same_iff first second)

end FileSearch.Expression
