/-
This file adds parts that ask for nothing to an expression, at any place and at any depth. They
leave no trace in what is read off the expression.
-/

import FileSearch.Proofs.Expression.Conjuncts

namespace FileSearch

/-- Such a text holds no character but white space. -/
def Blank (text : String) : Prop :=
  ∀ character ∈ text.toList, Text.isSpace character = true

instance (text : String) : Decidable (Blank text) :=
  decidable_of_iff (Text.isBlank text.toList = true) List.all_eq_true

/-- One more item stands somewhere in the second list, and it has the given property. -/
def Inserted {Item : Type} (filler : Item → Prop) (first second : List Item) : Prop :=
  ∃ front item back, filler item ∧ first = front ++ back ∧ second = front ++ item :: back

theorem Blank.isBlank {text : String} (blank : Blank text) : Text.isBlank text.toList = true :=
  List.all_eq_true.mpr blank

theorem visible_append (first second : List String) :
    visible (first ++ second) = visible first ++ visible second := by
  rw [visible, List.filter_append]
  rfl

theorem visible_eq_nil {texts : List String} (blank : ∀ text ∈ texts, Blank text) :
    visible texts = [] := by
  rw [visible, List.filter_eq_nil_iff]
  intro text member
  simp [(blank text member).isBlank]

theorem visible_inserted {first second : List String} (inserted : Inserted Blank first second) :
    visible second = visible first := by
  obtain ⟨front, text, back, blank, rfl, rfl⟩ := inserted
  rw [visible_append, visible_append, List.append_cancel_left_eq, ← List.singleton_append,
    visible_append, visible_eq_nil (List.forall_mem_singleton.mpr blank), List.nil_append]

namespace FieldOperator

/-- Such an operator has a list, and all values in its lists are blank. -/
def Vacuous (lists : FieldOperator) : Prop :=
  lists ≠ keyless ∧
    ∀ texts ∈ [lists.anyOf, lists.allOf, lists.noneOf], ∀ text ∈ texts.getD [], Blank text

/-- A blank value was added to one of the lists. -/
inductive Padded (lists : FieldOperator) : FieldOperator → Prop where
  | anyOf {texts others : List String} (present : lists.anyOf = some texts)
      (inserted : Inserted Blank texts others) : Padded lists { lists with anyOf := some others }
  | allOf {texts others : List String} (present : lists.allOf = some texts)
      (inserted : Inserted Blank texts others) : Padded lists { lists with allOf := some others }
  | noneOf {texts others : List String} (present : lists.noneOf = some texts)
      (inserted : Inserted Blank texts others) : Padded lists { lists with noneOf := some others }

end FieldOperator

/-- Such a test asks for nothing. -/
def FieldValue.Vacuous : FieldValue → Prop
  | .plain text => Blank text
  | .operator lists => lists.Vacuous

/-- Such a range has no bound that is not blank. -/
def DateRange.Vacuous (range : DateRange) : Prop :=
  ∀ bound ∈ [range.notBefore, range.before], ∀ text ∈ bound, Blank text

namespace Conditions

/-- Such conditions set no flag, and what else they set asks for nothing. -/
structure Vacuous (conditions : Conditions) : Prop where
  flags : ∀ flag, conditions.flags.get flag = Option.none
  fields : ∀ field, ∀ tested ∈ conditions.fields.get field, tested.Vacuous
  modified : ∀ range ∈ conditions.modified, range.Vacuous
  rawQuery : ∀ text ∈ conditions.rawQuery, Blank text

/-- A blank value was added to a list, or something that asks for nothing was set where nothing had
been set. -/
inductive Padded (conditions : Conditions) : Conditions → Prop where
  | values (field : Field) {lists others : FieldOperator}
      (present : conditions.fields.get field = some (.operator lists))
      (padded : lists.Padded others) :
      Padded conditions
        { conditions with fields := conditions.fields.set field (some (.operator others)) }
  | field (field : Field) {tested : FieldValue}
      (absent : conditions.fields.get field = Option.none) (vacuous : tested.Vacuous) :
      Padded conditions { conditions with fields := conditions.fields.set field (some tested) }
  | modified {range : DateRange} (absent : conditions.modified = Option.none)
      (vacuous : range.Vacuous) : Padded conditions { conditions with modified := some range }
  | rawQuery {text : String} (absent : conditions.rawQuery = Option.none) (blank : Blank text) :
      Padded conditions { conditions with rawQuery := some text }

end Conditions

namespace Node

variable {Child : Type}

/-- These are the children of a node under a connective. -/
def group (node : Node Child) : Connective → Option (List Child)
  | .conjunction => node.conjuncts
  | .disjunction => node.disjuncts

def setGroup (node : Node Child) (connective : Connective) (children : List Child) : Node Child :=
  match connective with
  | .conjunction => { node with conjuncts := some children }
  | .disjunction => { node with disjuncts := some children }

end Node

namespace Expression

/-- Such an expression asks for nothing, at no depth, and it is not refused. -/
inductive Vacuous : Expression → Prop where
  | raw {text : String} (blank : Blank text) : Vacuous (.raw text)
  | node {parts : Node Expression} (children : ∀ child ∈ parts.children, Vacuous child)
      (conditions : parts.conditions.Vacuous) : Vacuous (.node parts)

/-- One part that asks for nothing was added to a node or to a node inside it. -/
inductive Padded : Node Expression → Node Expression → Prop where
  | conditions {parts : Node Expression} {conditions : Conditions}
      (padded : parts.conditions.Padded conditions) :
      Padded parts { parts with conditions := conditions }
  | child {parts : Node Expression} {connective : Connective} {children others : List Expression}
      (present : parts.group connective = some children)
      (inserted : Inserted Vacuous children others) :
      Padded parts (parts.setGroup connective others)
  | group {parts : Node Expression} {connective : Connective}
      (absent : parts.group connective = none) : Padded parts (parts.setGroup connective [])
  | negation {parts : Node Expression} {child : Expression} (absent : parts.negation = none)
      (vacuous : Vacuous child) : Padded parts { parts with negation := some child }
  | insideGroup {parts inner padded : Node Expression} {connective : Connective}
      {front back : List Expression}
      (present : parts.group connective = some (front ++ .node inner :: back))
      (inside : Padded inner padded) :
      Padded parts (parts.setGroup connective (front ++ .node padded :: back))
  | insideNegation {parts inner padded : Node Expression}
      (present : parts.negation = some (.node inner)) (inside : Padded inner padded) :
      Padded parts { parts with negation := some (.node padded) }

end Expression

/-- Two tests cannot be told apart in the clauses, the atoms and the violations of a node; a test
can also be missing. -/
structure FieldValue.Alike (field : Field) (first second : Option FieldValue) : Prop where
  clause : first.bind (clause? field) = second.bind (clause? field)
  atoms : first.toList.flatMap (atoms field) = second.toList.flatMap (atoms field)
  violation : first.bind (violation? field) = second.bind (violation? field)

theorem FieldValue.Alike.refl (field : Field) (tested : Option FieldValue) :
    Alike field tested tested :=
  ⟨rfl, rfl, rfl⟩

namespace FieldOperator

variable {lists others : FieldOperator}

/-- An operator is known from the values in its lists that are not blank, unless it has no list. -/
theorem alike_of_visible (field : Field)
    (anyOf : visible (lists.anyOf.getD []) = visible (others.anyOf.getD []))
    (allOf : visible (lists.allOf.getD []) = visible (others.allOf.getD []))
    (noneOf : visible (lists.noneOf.getD []) = visible (others.noneOf.getD []))
    (keyless : lists.isKeyless = others.isKeyless) :
    FieldValue.Alike field (some (.operator lists)) (some (.operator others)) where
  clause := by
    simp only [Option.bind_some, FieldValue.clause?, clause?, valueClauses, anyOf, allOf, noneOf]
  atoms := by
    simp only [Option.toList_some, List.flatMap_singleton, FieldValue.atoms, atoms, anyOf, allOf,
      noneOf]
  violation := by
    simp only [Option.bind_some, FieldValue.violation?, keyless]

theorem Padded.alike (padded : lists.Padded others) (field : Field) :
    FieldValue.Alike field (some (.operator lists)) (some (.operator others)) := by
  cases padded with
  | anyOf present inserted =>
    refine alike_of_visible field ?_ rfl rfl ?_
    · rw [present]
      exact (visible_inserted inserted).symm
    · simp [isKeyless, present]
  | allOf present inserted =>
    refine alike_of_visible field rfl ?_ rfl ?_
    · rw [present]
      exact (visible_inserted inserted).symm
    · simp [isKeyless, present]
  | noneOf present inserted =>
    refine alike_of_visible field rfl rfl ?_ ?_
    · rw [present]
      exact (visible_inserted inserted).symm
    · simp [isKeyless, present]

theorem Vacuous.alike (vacuous : lists.Vacuous) (field : Field) :
    FieldValue.Alike field none (some (.operator lists)) := by
  obtain ⟨hasList, blank⟩ := vacuous
  rw [List.forall_mem_cons, List.forall_mem_cons, List.forall_mem_singleton] at blank
  have keyless : lists.isKeyless = false := by
    rw [Bool.eq_false_iff, ne_eq, isKeyless_iff]
    exact hasList
  have anyOf := visible_eq_nil blank.1
  have allOf := visible_eq_nil blank.2.1
  have noneOf := visible_eq_nil blank.2.2
  constructor
  · simp only [Option.bind_some, FieldValue.clause?, clause?, valueClauses, anyOf, allOf, noneOf]
    rfl
  · simp only [Option.toList_some, List.flatMap_singleton, FieldValue.atoms, atoms, anyOf, allOf,
      noneOf]
    rfl
  · simp only [Option.bind_some, FieldValue.violation?, keyless]
    rfl

end FieldOperator

theorem FieldValue.Vacuous.alike {tested : FieldValue} (vacuous : tested.Vacuous) (field : Field) :
    Alike field none (some tested) := by
  cases tested with
  | operator lists => exact FieldOperator.Vacuous.alike vacuous field
  | plain text =>
    have blank : Text.isBlank text.toList = true := Blank.isBlank vacuous
    constructor
    · rw [Option.bind_some, clause?, if_pos blank]
      rfl
    · rw [Option.toList_some, List.flatMap_singleton, atoms, visible_singleton, if_pos blank]
      rfl
    · rfl

theorem DateRange.Vacuous.emission {range : DateRange} (vacuous : range.Vacuous) :
    Emission.range range = none := by
  have missing (atom : String → Atom) {bound : Option String} (blank : ∀ text ∈ bound, Blank text) :
      Emission.bound? atom bound = none := by
    cases bound with
    | none => rfl
    | some text => simp [Emission.bound?, (blank text rfl).isBlank]
  rw [Vacuous, List.forall_mem_cons, List.forall_mem_singleton] at vacuous
  rw [Emission.range, missing _ vacuous.1, missing _ vacuous.2]
  rfl

theorem DateRange.Vacuous.atoms {range : DateRange} (vacuous : range.Vacuous) :
    range.atoms = [] := by
  have missing {bound : Option String} (blank : ∀ text ∈ bound, Blank text) :
      visible bound.toList = [] :=
    visible_eq_nil fun text member => blank text (Option.mem_toList.mp member)
  rw [Vacuous, List.forall_mem_cons, List.forall_mem_singleton] at vacuous
  rw [DateRange.atoms, missing vacuous.1, missing vacuous.2]
  rfl

theorem Blank.ofText? {text : String} (blank : Blank text) : Clause.ofText? text = none :=
  if_pos blank.isBlank

namespace Conditions

/-- Two nodes with such conditions cannot be told apart by them. -/
structure Alike (first second : Conditions) : Prop where
  clauses : first.clauses = second.clauses
  atoms : first.atoms = second.atoms
  violation : first.violation? = second.violation?
  flags : first.flags = second.flags

theorem Alike.refl (conditions : Conditions) : Alike conditions conditions :=
  ⟨rfl, rfl, rfl, rfl⟩

variable {first second conditions others : Conditions}

theorem alike_of_parts (flags : first.flags = second.flags)
    (fields : ∀ field, FieldValue.Alike field (first.fields.get field) (second.fields.get field))
    (range : first.modified.bind Emission.range = second.modified.bind Emission.range)
    (rangeAtoms : first.rangeAtoms = second.rangeAtoms)
    (raw : first.rawQuery.bind Clause.ofText? = second.rawQuery.bind Clause.ofText?) :
    Alike first second where
  clauses := by
    simp only [clauses, flagClauses, fieldClauses, flags, range, raw,
      fun other => (fields other).clause]
  atoms := by
    simp only [atoms, flagAtoms, fieldAtoms, flags, rangeAtoms, fun other => (fields other).atoms]
  violation := by simp only [violation?, fun other => (fields other).violation]
  flags := flags

/-- Only one field is tested in another way. -/
theorem alike_setField {field : Field} {tested : FieldValue}
    (alike : FieldValue.Alike field (conditions.fields.get field) (some tested)) :
    Alike conditions
      { conditions with fields := conditions.fields.set field (some tested) } := by
  refine alike_of_parts rfl (fun other => ?_) rfl rfl rfl
  rw [FieldMap.get_set]
  by_cases same : field = other
  · subst same
    rwa [if_pos rfl]
  · rw [if_neg same]
    exact .refl other _

theorem Padded.alike (padded : conditions.Padded others) : Alike conditions others := by
  cases padded with
  | values field present padded =>
    apply alike_setField
    rw [present]
    exact padded.alike field
  | field field absent vacuous =>
    apply alike_setField
    rw [absent]
    exact vacuous.alike field
  | modified absent vacuous =>
    refine alike_of_parts rfl (fun field => .refl field _) ?_ ?_ rfl
    · rw [absent]
      exact vacuous.emission.symm
    · rw [rangeAtoms, absent]
      exact (List.append_nil _).trans vacuous.atoms |>.symm
  | rawQuery absent blank =>
    refine alike_of_parts rfl (fun field => .refl field _) rfl rfl ?_
    rw [absent]
    exact blank.ofText?.symm

/-- Conditions that ask for nothing are like no conditions. -/
theorem Vacuous.alike (vacuous : conditions.Vacuous) : Alike Conditions.none conditions := by
  refine alike_of_parts ?_ (fun field => ?_) ?_ ?_ ?_
  · refine FlagMap.ext_get fun flag => ?_
    rw [vacuous.flags flag]
    exact FlagMap.get_replicate _ flag
  · rw [show Conditions.none.fields.get field = Option.none from FieldMap.get_replicate _ field]
    cases found : conditions.fields.get field with
    | none => exact .refl field _
    | some tested => exact (vacuous.fields field tested found).alike field
  · cases found : conditions.modified with
    | none => rfl
    | some range => exact (vacuous.modified range found).emission.symm
  · show [] = conditions.modified.toList.flatMap DateRange.atoms
    cases found : conditions.modified with
    | none => rfl
    | some range => exact ((List.append_nil _).trans (vacuous.modified range found).atoms).symm
  · cases found : conditions.rawQuery with
    | none => rfl
    | some text => exact (vacuous.rawQuery text found).ofText?.symm

end Conditions

namespace Expression

/-- Two lists of children cannot be told apart in the clauses, the atoms, the violations and the
trash flags of a node. -/
structure Alike (first second : List Expression) : Prop where
  clauses : first.filterMap clause? = second.filterMap clause?
  atoms : first.flatMap atoms = second.flatMap atoms
  violation : first.findSome? violation? = second.findSome? violation?
  trashed : first.any constrainsTrashed = second.any constrainsTrashed

/-- Two nodes are alike at the root and inside other nodes. -/
structure AlikeNodes (first second : Node Expression) : Prop where
  clause : ∀ atRoot, (first.map clause?).clause? atRoot = (second.map clause?).clause? atRoot
  atoms : atoms (.node first) = atoms (.node second)
  violation : violation? (.node first) = violation? (.node second)
  trashed : constrainsTrashed (.node first) = constrainsTrashed (.node second)

theorem Alike.refl (children : List Expression) : Alike children children :=
  ⟨rfl, rfl, rfl, rfl⟩

theorem Alike.trans {first second third : List Expression} (front : Alike first second)
    (back : Alike second third) : Alike first third :=
  ⟨front.clauses.trans back.clauses, front.atoms.trans back.atoms,
    front.violation.trans back.violation, front.trashed.trans back.trashed⟩

theorem Alike.append {first second others more : List Expression} (front : Alike first second)
    (back : Alike others more) : Alike (first ++ others) (second ++ more) where
  clauses := by rw [List.filterMap_append, List.filterMap_append, front.clauses, back.clauses]
  atoms := by rw [List.flatMap_append, List.flatMap_append, front.atoms, back.atoms]
  violation := by
    rw [List.findSome?_append, List.findSome?_append, front.violation, back.violation]
  trashed := by rw [List.any_append, List.any_append, front.trashed, back.trashed]

theorem AlikeNodes.alike {first second : Node Expression} (alike : AlikeNodes first second) :
    Alike [.node first] [.node second] where
  clauses := by simp only [List.filterMap_cons, clause?_node, alike.clause]
  atoms := by simp only [List.flatMap_singleton, alike.atoms]
  violation := by simp only [List.findSome?_cons, alike.violation]
  trashed := by simp only [List.any_cons, alike.trashed]

end Expression

namespace Node

open Expression (Alike)

variable {first second : Node Expression}

theorem groupClause?_map (connective : Connective) (children : Option (List Expression)) :
    groupClause? connective (children.map (List.map Expression.clause?)) =
      Clause.join connective ((children.getD []).filterMap Expression.clause?) := by
  cases children with
  | none => rfl
  | some children =>
    rw [groupClause?, Option.map_some, Option.getD_some, List.filterMap_map]
    rfl

theorem join_map_negation (negation : Option Expression) :
    (negation.map Expression.clause?).join =
      (negation.toList.filterMap Expression.clause?).head? := by
  cases negation with
  | none => rfl
  | some child => cases found : child.clause? <;> simp [found]

theorem alike_of_parts (conjuncts : Alike (first.conjuncts.getD []) (second.conjuncts.getD []))
    (disjuncts : Alike (first.disjuncts.getD []) (second.disjuncts.getD []))
    (negation : Alike first.negation.toList second.negation.toList)
    (conditions : first.conditions.Alike second.conditions) :
    Expression.AlikeNodes first second := by
  have children : Alike first.children second.children :=
    (conjuncts.append disjuncts).append negation
  constructor
  · intro atRoot
    simp only [clause?, combined, others, map, groupClause?_map, join_map_negation,
      conjuncts.clauses, disjuncts.clauses, negation.clauses, conditions.clauses]
  · rw [Expression.atoms_node, Expression.atoms_node, children.atoms, conditions.atoms]
  · rw [Expression.violation?_node, Expression.violation?_node, children.violation,
      conditions.violation]
  · have settles := conjuncts.trashed
    rw [Bool.eq_iff_iff, List.any_eq_true, List.any_eq_true] at settles
    rw [Bool.eq_iff_iff, Expression.constrainsTrashed_node_iff,
      Expression.constrainsTrashed_node_iff, conditions.flags, settles]

end Node

namespace Expression

theorem Alike.nil_children {children : List Expression}
    (each : ∀ child ∈ children, Alike [] [child]) : Alike [] children := by
  induction children with
  | nil => exact .refl []
  | cons child children inductionHypothesis =>
    rw [List.forall_mem_cons] at each
    exact each.1.append (inductionHypothesis each.2)

/-- An expression that asks for nothing is like no expression. -/
theorem Vacuous.alike {expression : Expression} (vacuous : Vacuous expression) :
    Alike [] [expression] := by
  induction vacuous with
  | raw blank =>
    have nothing : clause? (.raw _) = none := blank.ofText?
    refine ⟨?_, rfl, rfl, rfl⟩
    rw [List.filterMap_cons, nothing]
  | @node parts _ conditions inductionHypothesis =>
    have group {children : List Expression} (inside : ∀ child ∈ children, child ∈ parts.children) :
        Alike [] children :=
      .nil_children fun child member => inductionHypothesis child (inside child member)
    have alike : AlikeNodes Node.empty parts := by
      refine Node.alike_of_parts (group ?_) (group ?_) (group ?_) conditions.alike
      · exact fun child member => List.mem_append_left _ (List.mem_append_left _ member)
      · exact fun child member => List.mem_append_left _ (List.mem_append_right _ member)
      · exact fun child member => List.mem_append_right _ member
    have nothing : Alike [] [.node Node.empty] := ⟨rfl, rfl, rfl, rfl⟩
    exact nothing.trans alike.alike

theorem alike_setGroup {parts : Node Expression} (connective : Connective)
    {children : List Expression} (alike : Alike ((parts.group connective).getD []) children) :
    AlikeNodes parts (parts.setGroup connective children) := by
  cases connective with
  | conjunction => exact Node.alike_of_parts alike (.refl _) (.refl _) (.refl _)
  | disjunction => exact Node.alike_of_parts (.refl _) alike (.refl _) (.refl _)

theorem Padded.alike {parts padded : Node Expression} (pads : Padded parts padded) :
    AlikeNodes parts padded := by
  induction pads with
  | conditions padded => exact Node.alike_of_parts (.refl _) (.refl _) (.refl _) padded.alike
  | child present inserted =>
    obtain ⟨front, child, back, vacuous, rfl, rfl⟩ := inserted
    apply alike_setGroup
    rw [present, Option.getD_some]
    exact (Alike.refl front).append (vacuous.alike.append (.refl back))
  | group absent =>
    apply alike_setGroup
    rw [absent]
    exact .refl []
  | negation absent vacuous =>
    refine Node.alike_of_parts (.refl _) (.refl _) ?_ (.refl _)
    rw [absent]
    exact vacuous.alike
  | @insideGroup _ _ _ _ front back present _ inductionHypothesis =>
    apply alike_setGroup
    rw [present, Option.getD_some]
    exact (Alike.refl front).append (inductionHypothesis.alike.append (.refl back))
  | insideNegation present _ inductionHypothesis =>
    refine Node.alike_of_parts (.refl _) (.refl _) ?_ (.refl _)
    rw [present]
    exact inductionHypothesis.alike

end Expression

end FileSearch
