/-
This file lists what an expression mentions, by one traversal: the values of each field and the
settings of each flag. Raw texts, ranges and blank values have no share in it.
-/

import FileSearch.Proofs.Compile.Summary
import FileSearch.Proofs.Expression.Outline

namespace FileSearch

/-- These are the values that a field is tested for; a list that is absent has none. -/
def FieldValue.literals : FieldValue → List String
  | .plain text => visible [text]
  | .operator lists =>
    visible (lists.anyOf.getD []) ++ visible (lists.allOf.getD []) ++
      visible (lists.noneOf.getD [])

theorem FieldValue.atoms_eq_map (field : Field) (tested : FieldValue) :
    tested.atoms field = tested.literals.map (.matching field) := by
  cases tested <;> rfl

/-- Only one field contributes. -/
theorem Field.flatMap_all {Result : Type} (field : Field) {contribution : Field → List Result}
    (others : ∀ other, other ≠ field → contribution other = []) :
    all.flatMap contribution = contribution field := by
  cases field <;> simp [all, others]

/-- Only one flag contributes. -/
theorem Flag.flatMap_all {Result : Type} (flag : Flag) {contribution : Flag → List Result}
    (others : ∀ other, other ≠ flag → contribution other = []) :
    all.flatMap contribution = contribution flag := by
  cases flag <;> simp [all, others]

namespace Conditions

def literals (field : Field) (conditions : Conditions) : List String :=
  (conditions.fields.get field).toList.flatMap FieldValue.literals

def settings (flag : Flag) (conditions : Conditions) : List Bool :=
  (conditions.flags.get flag).toList

/-- The bounds of a range are read by no selection of values or settings. -/
theorem filterMap_rangeAtoms {Result : Type} {select : Atom → Option Result}
    (notBefore : ∀ bound, select (.modifiedNotBefore bound) = Option.none)
    (before : ∀ bound, select (.modifiedBefore bound) = Option.none) (conditions : Conditions) :
    conditions.rangeAtoms.filterMap select = [] := by
  rw [rangeAtoms, List.filterMap_flatMap, List.flatMap_eq_nil_iff]
  intro range _
  simp [DateRange.atoms, List.filterMap_map, notBefore, before]

theorem fieldAtoms_eq (conditions : Conditions) :
    conditions.fieldAtoms =
      Field.all.flatMap fun field => (conditions.literals field).map (.matching field) := by
  refine List.flatMap_congr fun field _ => ?_
  rw [literals, List.map_flatMap]
  exact List.flatMap_congr fun tested _ => tested.atoms_eq_map field

theorem values_atoms (field : Field) (conditions : Conditions) :
    conditions.atoms.filterMap (Atom.value? field) = conditions.literals field := by
  -- The atoms are those of the flags, the fields and the range, and only a field has values.
  have flags : conditions.flagAtoms.filterMap (Atom.value? field) = [] := by
    rw [flagAtoms, List.filterMap_flatMap, List.flatMap_eq_nil_iff]
    intro flag _
    cases conditions.flags.get flag <;> rfl
  have fields : conditions.fieldAtoms.filterMap (Atom.value? field) =
      conditions.literals field := by
    rw [fieldAtoms_eq, List.filterMap_flatMap, field.flatMap_all]
    · simp [List.filterMap_map, Function.comp_def, Atom.value?]
    · intro other different
      simp [List.filterMap_map, Function.comp_def, Atom.value?, different]
  rw [atoms, List.filterMap_append, List.filterMap_append, flags, fields,
    filterMap_rangeAtoms (fun _ => rfl) fun _ => rfl, List.append_nil, List.nil_append]

theorem marks_atoms (flag : Flag) (conditions : Conditions) :
    conditions.atoms.filterMap (Atom.mark? flag) = conditions.settings flag := by
  have flags : conditions.flagAtoms.filterMap (Atom.mark? flag) = conditions.settings flag := by
    rw [flagAtoms, List.filterMap_flatMap, flag.flatMap_all, settings]
    · cases conditions.flags.get flag <;> simp [Atom.mark?]
    · intro other different
      cases conditions.flags.get other <;> simp [Atom.mark?, different]
  have fields : conditions.fieldAtoms.filterMap (Atom.mark? flag) = [] := by
    rw [fieldAtoms_eq, List.filterMap_flatMap, List.flatMap_eq_nil_iff]
    intro field _
    simp [List.filterMap_map, Function.comp_def, Atom.mark?]
  rw [atoms, List.filterMap_append, List.filterMap_append, flags, fields,
    filterMap_rangeAtoms (fun _ => rfl) fun _ => rfl, List.append_nil, List.append_nil]

end Conditions

namespace Expression

section

variable {Result : Type} (own : Conditions → List Result)

/-- This function visits the children of a node in order, and then the conditions of the node. A raw
text is passed over. -/
def collect : Expression → List Result :=
  fold (fun _ => []) fun node => node.children.flatten ++ own node.conditions

theorem collect_node (parts : Node Expression) :
    collect own (.node parts) = parts.children.flatMap (collect own) ++ own parts.conditions := by
  rw [collect, fold_node, Node.children_map]
  rfl

/-- What is read off the atoms is collected from the conditions. -/
theorem filterMap_atoms {select : Atom → Option Result}
    (reads : ∀ conditions : Conditions, conditions.atoms.filterMap select = own conditions)
    (expression : Expression) : expression.atoms.filterMap select = expression.collect own := by
  induction expression using induct with
  | atRaw text => rfl
  | atNode parts inductionHypothesis =>
    rw [atoms_node, collect_node, List.filterMap_append, List.filterMap_flatMap, reads,
      List.flatMap_congr inductionHypothesis]

end

/-- These are the values of a field that an expression mentions. -/
def mentions (field : Field) : Expression → List String :=
  collect (Conditions.literals field)

/-- These are the values that an expression sets a flag to. -/
def settings (flag : Flag) : Expression → List Bool :=
  collect (Conditions.settings flag)

/-- The setting of a node comes last, and those of its later children come behind the others. -/
theorem getLast?_settings (flag : Flag) (parts : Node Expression) :
    ((node parts).settings flag).getLast? =
      (parts.conditions.flags.get flag).or
        (parts.children.reverse.findSome? fun child => (child.settings flag).getLast?) := by
  rw [settings, collect_node, List.getLast?_append, List.getLast?_flatMap, Conditions.settings]
  cases parts.conditions.flags.get flag <;> rfl

end Expression

/-- A list without its blank values is still a list. -/
def FieldOperator.essence (lists : FieldOperator) : FieldOperator where
  anyOf := lists.anyOf.map visible
  allOf := lists.allOf.map visible
  noneOf := lists.noneOf.map visible

/-- A blank value is no test. -/
def FieldValue.essence? : FieldValue → Option FieldValue
  | .plain text => if Text.isBlank text.toList then none else some (.plain text)
  | .operator lists => some (.operator lists.essence)

/-- These conditions have no range, no raw text and no blank values. -/
def Conditions.essence (conditions : Conditions) : Conditions where
  fields := conditions.fields.map fun tested => tested.bind FieldValue.essence?
  flags := conditions.flags
  modified := Option.none
  rawQuery := Option.none

/-- This function keeps some children of a node. -/
def Node.filter {Child : Type} (keep : Child → Bool) (node : Node Child) : Node Child where
  conjuncts := node.conjuncts.map (List.filter keep)
  disjuncts := node.disjuncts.map (List.filter keep)
  negation := node.negation.filter keep
  conditions := node.conditions

namespace Expression

def isNode : Expression → Bool
  | .raw _ => false
  | .node _ => true

/-- This is an expression without its raw texts, its ranges and its blank values. -/
def essence : Expression → Expression :=
  fold (fun _ => .raw "") fun node =>
    .node { node.filter isNode with conditions := node.conditions.essence }

end Expression

theorem visible_visible (texts : List String) : visible (visible texts) = visible texts := by
  simp only [visible, List.filter_filter, Bool.and_self]

theorem visible_getD_map (texts : Option (List String)) :
    visible ((texts.map visible).getD []) = visible (texts.getD []) := by
  cases texts with
  | none => rfl
  | some texts => exact visible_visible texts

theorem FieldValue.literals_essence? (tested : FieldValue) :
    tested.essence?.toList.flatMap literals = tested.literals := by
  cases tested with
  | plain text =>
    rw [essence?, literals, visible_singleton]
    cases blank : Text.isBlank text.toList with
    | true => rfl
    | false => simp [literals, visible_singleton, blank]
  | operator lists =>
    simp only [essence?, Option.toList_some, List.flatMap_singleton, literals,
      FieldOperator.essence, visible_getD_map]

theorem Conditions.literals_essence (field : Field) (conditions : Conditions) :
    conditions.essence.literals field = conditions.literals field := by
  rw [literals, essence, FieldMap.get_map, literals]
  cases conditions.fields.get field with
  | none => rfl
  | some tested =>
    rw [Option.bind_some, tested.literals_essence?, Option.toList_some, List.flatMap_singleton]

@[simp]
theorem Node.children_filter {Child : Type} (keep : Child → Bool) (node : Node Child) :
    (node.filter keep).children = node.children.filter keep := by
  have group (listed : Option (List Child)) :
      (listed.map (List.filter keep)).getD [] = (listed.getD []).filter keep := by
    cases listed <;> rfl
  have single (possible : Option Child) :
      (possible.filter keep).toList = possible.toList.filter keep := by
    cases possible with
    | none => rfl
    | some child =>
      rw [Option.filter_some, Option.toList_some, List.filter_cons]
      cases keep child <;> rfl
  simp only [children, filter, group, single, List.filter_append]

namespace Expression

variable {Result : Type} {own : Conditions → List Result}

theorem essence_node (parts : Node Expression) :
    essence (.node parts) =
      .node { (parts.map essence).filter isNode with conditions := parts.conditions.essence } := by
  rw [essence, fold_node]
  rfl

/-- A raw text has nothing to collect. -/
theorem flatMap_filter_isNode (children : List Expression) :
    (children.filter isNode).flatMap (collect own) = children.flatMap (collect own) := by
  induction children with
  | nil => rfl
  | cons child children inductionHypothesis =>
    cases child with
    | raw text => exact inductionHypothesis
    | node parts =>
      rw [List.filter_cons_of_pos rfl, List.flatMap_cons, List.flatMap_cons, inductionHypothesis]

/-- Nothing is collected from what the essence leaves out. -/
theorem collect_essence
    (same : ∀ conditions : Conditions, own conditions.essence = own conditions)
    (expression : Expression) : expression.essence.collect own = expression.collect own := by
  induction expression using induct with
  | atRaw text => rfl
  | atNode parts inductionHypothesis =>
    have children : ((parts.map essence).filter isNode).children.flatMap (collect own) =
        parts.children.flatMap (collect own) := by
      rw [Node.children_filter, Node.children_map, flatMap_filter_isNode, List.flatMap_map]
      exact List.flatMap_congr inductionHypothesis
    rw [essence_node, collect_node, collect_node, same]
    exact congrArg (· ++ own parts.conditions) children

end Expression

end FileSearch
