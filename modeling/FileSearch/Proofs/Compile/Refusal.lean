/-
This file shows which expressions are refused: those with a field whose operator has no lists, at
any depth. The first such field is named, where children are searched before the fields of their
node.
-/

import FileSearch.Proofs.Emission
import FileSearch.Scope

namespace FileSearch

namespace Conditions

/-- These are the fields that are set, in order, with what they are tested against. -/
def tests (conditions : Conditions) : List (Field × FieldValue) :=
  Field.all.filterMap fun field => (conditions.fields.get field).map (field, ·)

theorem mem_tests_iff (conditions : Conditions) (test : Field × FieldValue) :
    test ∈ conditions.tests ↔ conditions.fields.get test.1 = some test.2 := by
  obtain ⟨field, tested⟩ := test
  rw [tests, List.mem_filterMap]
  constructor
  · rintro ⟨other, _, found⟩
    obtain ⟨value, set, same⟩ := Option.map_eq_some_iff.mp found
    cases same
    exact set
  · intro set
    exact ⟨field, field.mem_all, Option.map_eq_some_iff.mpr ⟨tested, set, rfl⟩⟩

end Conditions

namespace Expression

/-- The children come before the node, and each child is searched completely before the next. -/
def tests : Expression → List (Field × FieldValue) :=
  fold (fun _ => []) fun node => node.children.flatten ++ node.conditions.tests

theorem tests_node (parts : Node Expression) :
    tests (.node parts) = parts.children.flatMap tests ++ parts.conditions.tests := by
  rw [tests, fold_node, Node.children_map]
  rfl

/-- This relation follows conjuncts, disjuncts and negations down to an expression. -/
inductive Contains : Expression → Expression → Prop where
  | self {expression : Expression} : Contains expression expression
  | child {parts : Node Expression} {child target : Expression} (member : child ∈ parts.children)
      (contains : Contains child target) : Contains (.node parts) target

/-- The search comes to each field that is set in a node, and to no other one. -/
theorem mem_tests_iff (expression : Expression) (test : Field × FieldValue) :
    test ∈ expression.tests ↔
      ∃ parts, Contains expression (.node parts) ∧
        parts.conditions.fields.get test.1 = some test.2 := by
  constructor
  · intro member
    induction expression using induct with
    | atRaw text => cases member
    | atNode parts inductionHypothesis =>
      rw [tests_node, List.mem_append, List.mem_flatMap] at member
      rcases member with ⟨child, inside, found⟩ | own
      · obtain ⟨target, contains, set⟩ := inductionHypothesis child inside found
        exact ⟨target, .child inside contains, set⟩
      · exact ⟨parts, .self, (parts.conditions.mem_tests_iff test).mp own⟩
  · rintro ⟨target, contains, set⟩
    generalize same : node target = goal at contains
    induction contains with
    | self =>
      subst same
      rw [tests_node, List.mem_append]
      exact .inr ((target.conditions.mem_tests_iff test).mpr set)
    | child member _ inductionHypothesis =>
      rw [tests_node, List.mem_append, List.mem_flatMap]
      exact .inl ⟨_, member, inductionHypothesis same⟩

end Expression

/-- The operator of the field is the first one without lists. -/
def FirstKeyless (tests : List (Field × FieldValue)) (field : Field) : Prop :=
  ∃ before behind, tests = before ++ (field, .operator .keyless) :: behind ∧
    ∀ test ∈ before, test.2 ≠ .operator .keyless

/-- A violation is reported for a test that is an operator without lists. -/
def testViolation? (test : Field × FieldValue) : Option Violation :=
  test.2.violation? test.1

theorem testViolation?_eq_some_iff (test : Field × FieldValue) (violation : Violation) :
    testViolation? test = some violation ↔ test = (violation.field, .operator .keyless) := by
  obtain ⟨field, tested⟩ := test
  cases tested with
  | plain text => simp [testViolation?, FieldValue.violation?]
  | operator lists =>
    rw [testViolation?, FieldValue.violation?, Option.ite_none_right_eq_some,
      FieldOperator.isKeyless_iff]
    constructor
    · rintro ⟨rfl, same⟩
      cases same
      rfl
    · intro same
      cases same
      exact ⟨rfl, rfl⟩

theorem testViolation?_eq_none_iff (test : Field × FieldValue) :
    testViolation? test = none ↔ test.2 ≠ .operator .keyless := by
  rw [Option.eq_none_iff_forall_ne_some]
  constructor
  · intro accepted keyless
    exact accepted ⟨test.1⟩ ((testViolation?_eq_some_iff _ _).mpr (Prod.ext rfl keyless))
  · intro lists violation refused
    rw [testViolation?_eq_some_iff] at refused
    exact lists (congrArg Prod.snd refused)

/-- The search stops at the first operator without lists. -/
theorem findSome?_testViolation?_iff (tests : List (Field × FieldValue)) (violation : Violation) :
    tests.findSome? testViolation? = some violation ↔ FirstKeyless tests violation.field := by
  rw [List.findSome?_eq_some_iff]
  simp only [testViolation?_eq_some_iff, testViolation?_eq_none_iff]
  constructor
  · rintro ⟨before, test, behind, split, rfl, others⟩
    exact ⟨before, behind, split, others⟩
  · rintro ⟨before, behind, split, others⟩
    exact ⟨before, _, behind, split, rfl, others⟩

theorem Conditions.violation?_eq_findSome? (conditions : Conditions) :
    conditions.violation? = conditions.tests.findSome? testViolation? := by
  rw [violation?, tests, findSome?_filterMap]
  apply congrArg (List.findSome? · Field.all)
  funext field
  cases conditions.fields.get field <;> rfl

namespace Expression

theorem violation?_eq_findSome? (expression : Expression) :
    expression.violation? = expression.tests.findSome? testViolation? := by
  induction expression using induct with
  | atRaw text => rfl
  | atNode parts inductionHypothesis =>
    have children : parts.children.findSome? violation? =
        (parts.children.flatMap tests).findSome? testViolation? := by
      rw [findSome?_flatMap, ← List.head?_filterMap, ← List.head?_filterMap,
        List.filterMap_congr inductionHypothesis]
    rw [violation?_node, tests_node, List.findSome?_append, children,
      Conditions.violation?_eq_findSome?]

theorem compile_eq_error_iff_violation? (expression : Expression) (violation : Violation) :
    expression.compile = .error violation ↔ expression.violation? = some violation := by
  cases expression with
  | raw text => exact iff_of_false (fun refused => nomatch refused) fun refused => nomatch refused
  | node parts =>
    rw [compile_node]
    cases violation? (.node parts) with
    | none => exact iff_of_false (fun refused => nomatch refused) fun refused => nomatch refused
    | some other => rw [Except.error.injEq, Option.some.injEq]

theorem compile_eq_error_iff (expression : Expression) (violation : Violation) :
    expression.compile = .error violation ↔ FirstKeyless expression.tests violation.field := by
  rw [compile_eq_error_iff_violation?, violation?_eq_findSome?, findSome?_testViolation?_iff]

/-- Some field is named exactly when the search comes to an operator without lists. -/
theorem exists_compile_eq_error_iff (expression : Expression) :
    (∃ violation, expression.compile = .error violation) ↔
      ∃ field, (field, .operator .keyless) ∈ expression.tests := by
  simp only [compile_eq_error_iff_violation?, violation?_eq_findSome?]
  rw [← Option.isSome_iff_exists, List.findSome?_isSome_iff]
  constructor
  · rintro ⟨test, member, refused⟩
    obtain ⟨violation, found⟩ := Option.isSome_iff_exists.mp refused
    rw [testViolation?_eq_some_iff] at found
    exact ⟨violation.field, found ▸ member⟩
  · rintro ⟨field, member⟩
    exact ⟨_, member, rfl⟩

/-- A scope neither causes a refusal nor prevents one. -/
theorem compileWithin_eq_error_iff (scope : Scope) (expression : Expression)
    (violation : Violation) :
    expression.compileWithin scope = .error violation ↔
      expression.compile = .error violation := by
  rw [compileWithin]
  cases expression.compile with
  | error other => rfl
  | ok compiled =>
    exact iff_of_false (fun refused => nomatch refused) fun refused => nomatch refused

end Expression

/-- The operator is shown at its field. -/
theorem Violation.compact_node (violation : Violation) :
    violation.node.compact = "\x7b\"" ++ violation.field.key ++ "\":\x7b\x7d\x7d" := by
  obtain ⟨field⟩ := violation
  cases field <;> rfl

/-- An expression is refused exactly when it contains a node with an operator that has no lists,
whatever else the node and those around it ask for. The first such operator is reported, with its
field and in every scope. -/
theorem Expression.refuses_first_keyless (expression : Expression) (scope : Scope) :
    ((∃ violation, expression.compile = .error violation) ↔
      ∃ parts field, Contains expression (.node parts) ∧
        parts.conditions.fields.get field = some (.operator .keyless)) ∧
    ∀ violation : Violation,
      (expression.compile = .error violation ↔
        FirstKeyless expression.tests violation.field) ∧
      (expression.compileWithin scope = .error violation ↔
        expression.compile = .error violation) ∧
      violation.node.compact = "\x7b\"" ++ violation.field.key ++ "\":\x7b\x7d\x7d" := by
  refine ⟨?_, fun violation => ⟨expression.compile_eq_error_iff violation,
    expression.compileWithin_eq_error_iff scope violation, violation.compact_node⟩⟩
  rw [exists_compile_eq_error_iff]
  constructor
  · rintro ⟨field, member⟩
    obtain ⟨parts, contains, set⟩ := (expression.mem_tests_iff _).mp member
    exact ⟨parts, field, contains, set⟩
  · rintro ⟨parts, field, contains, set⟩
    exact ⟨field, (expression.mem_tests_iff _).mpr ⟨parts, contains, set⟩⟩

end FileSearch
