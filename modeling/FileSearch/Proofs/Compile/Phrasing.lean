/-
This file shows that a plain value and an operator with this single value are two phrasings of one
test: an expression is compiled to the same result when any number of its tests are rephrased.
-/

import FileSearch.Proofs.Compile.Padding

namespace FileSearch

/-- This operator has a single value, in the list of which one value is enough or in the list of
which all of them are needed. -/
def FieldOperator.ofValue : Connective → String → FieldOperator
  | .disjunction, value => ofAny [value]
  | .conjunction, value => ofAll [value]

/-- The second test is the first one, or it has the plain value of the first one in a list. -/
inductive FieldValue.Rephrased : FieldValue → FieldValue → Prop where
  | same (tested : FieldValue) : Rephrased tested tested
  | listed (connective : Connective) (text : String) :
      Rephrased (.plain text) (.operator (.ofValue connective text))

/-- Any of the fields are tested in another phrasing, and all else is the same. -/
structure Conditions.Rephrased (first second : Conditions) : Prop where
  fields : ∀ field,
    Option.Rel FieldValue.Rephrased (first.fields.get field) (second.fields.get field)
  flags : first.flags = second.flags
  modified : first.modified = second.modified
  rawQuery : first.rawQuery = second.rawQuery

/-- Any of the nodes of an expression, at any depth, have rephrased conditions. -/
inductive Expression.Rephrased : Expression → Expression → Prop where
  | raw (text : String) : Rephrased (.raw text) (.raw text)
  | node {first second : Node Expression}
      (conjuncts : Option.Rel (List.Forall₂ Rephrased) first.conjuncts second.conjuncts)
      (disjuncts : Option.Rel (List.Forall₂ Rephrased) first.disjuncts second.disjuncts)
      (negation : Option.Rel Rephrased first.negation second.negation)
      (conditions : first.conditions.Rephrased second.conditions) :
      Rephrased (.node first) (.node second)

namespace FieldOperator

/-- The chains around a single value leave it alone, and a blank value is left out everywhere. -/
theorem alike_ofValue (field : Field) (connective : Connective) (text : String) :
    FieldValue.Alike field (some (.plain text)) (some (.operator (.ofValue connective text))) where
  clause := by
    have clauses : valueClauses field (some [text]) =
        if Text.isBlank text.toList then [] else [.atom (.matching field text)] := by
      rw [valueClauses, Option.getD_some, visible_singleton]
      cases Text.isBlank text.toList <;> rfl
    rw [Option.bind_some, Option.bind_some, FieldValue.clause?, FieldValue.clause?, clause?]
    cases connective with
    | conjunction =>
      rw [ofValue, ofAll, clauses]
      cases Text.isBlank text.toList <;> rfl
    | disjunction =>
      rw [ofValue, ofAny, clauses]
      cases Text.isBlank text.toList <;> rfl
  atoms := by
    rw [Option.toList_some, Option.toList_some, List.flatMap_singleton, List.flatMap_singleton]
    cases connective with
    | conjunction => exact congrArg (List.map _) (List.append_nil _).symm
    | disjunction =>
      exact congrArg (List.map _) ((List.append_nil _).trans (List.append_nil _)).symm
  violation := by cases connective <;> rfl

end FieldOperator

theorem FieldValue.Alike.of_rephrased {first second : Option FieldValue}
    (rephrased : Option.Rel Rephrased first second) (field : Field) : Alike field first second := by
  cases rephrased with
  | none => exact .refl field none
  | some tested =>
    cases tested with
    | same => exact .refl field _
    | listed connective text => exact FieldOperator.alike_ofValue field connective text

theorem Conditions.Rephrased.alike {first second : Conditions}
    (rephrased : Rephrased first second) : Alike first second := by
  refine alike_of_parts rephrased.flags (fun field => .of_rephrased (rephrased.fields field) field)
    ?_ ?_ ?_
  · rw [rephrased.modified]
  · rw [rangeAtoms, rangeAtoms, rephrased.modified]
  · rw [rephrased.rawQuery]

namespace Expression

variable {expression other : Expression} {parts rephrased : Node Expression}

/-- Children are alike when those that are rephrased are alike one by one. -/
theorem Alike.of_rephrased {children others : List Expression}
    (inside : ∀ child ∈ children, ∀ changed, Rephrased child changed → Alike [child] [changed])
    (each : List.Forall₂ Rephrased children others) : Alike children others := by
  induction each with
  | nil => exact .refl []
  | cons here _ inductionHypothesis =>
    rw [List.forall_mem_cons] at inside
    exact (inside.1 _ here).append (inductionHypothesis inside.2)

theorem AlikeNodes.of_rephrased (rephrases : Rephrased (.node parts) (.node rephrased))
    (inside : ∀ child ∈ parts.children, ∀ changed, Rephrased child changed →
      Alike [child] [changed]) : AlikeNodes parts rephrased := by
  simp only [Node.children, List.forall_mem_append] at inside
  obtain ⟨⟨conjunct, disjunct⟩, negated⟩ := inside
  cases rephrases with
  | node conjuncts disjuncts negation conditions =>
    exact Node.alike_of_parts (.of_rephrased conjunct (forall₂_getD conjuncts))
      (.of_rephrased disjunct (forall₂_getD disjuncts))
      (.of_rephrased negated (forall₂_toList negation)) conditions.alike

/-- A rephrased expression is like the first one wherever it stands. -/
theorem Rephrased.alike (rephrases : Rephrased expression other) :
    Alike [expression] [other] := by
  induction expression using induct generalizing other with
  | atRaw text =>
    cases rephrases
    exact .refl _
  | atNode parts inductionHypothesis =>
    cases other with
    | raw text => cases rephrases
    | node rephrased =>
      have nodes : AlikeNodes parts rephrased :=
        .of_rephrased rephrases fun child member _ => inductionHypothesis child member
      exact nodes.alike

/-- The phrasing of plain values, blank or not, is invisible in the query, in the summary and in the
refusal of an expression, in every scope. -/
theorem compile_ignores_phrasing (rephrases : Rephrased expression other) :
    compile other = compile expression ∧
      ∀ scope, compileWithin scope other = compileWithin scope expression := by
  cases expression with
  | raw text =>
    cases rephrases
    exact ⟨rfl, fun _ => rfl⟩
  | node parts =>
    cases other with
    | raw text => cases rephrases
    | node rephrased =>
      have nodes : AlikeNodes parts rephrased :=
        .of_rephrased rephrases fun child _ _ here => here.alike
      exact ⟨nodes.compile_eq, nodes.compileWithin_eq⟩

/-- A test is rephrased in a node that has no other part. -/
theorem rephrased_setField (field : Field) {tested another : FieldValue}
    (rephrases : FieldValue.Rephrased tested another) :
    Rephrased (empty.setField field tested) (empty.setField field another) := by
  refine .node .none .none .none ⟨fun read => ?_, rfl, rfl, rfl⟩
  rw [FieldMap.get_set, FieldMap.get_set]
  by_cases same : field = read
  · rw [if_pos same, if_pos same]
    exact .some rephrases
  · rw [if_neg same, if_neg same, Node.empty, Conditions.none, FieldMap.get_replicate]
    exact .none

/-- This node asks for the name or the owner, and not for the type. -/
def nameOrOwner (name mimeType : FieldValue) : Node Expression :=
  { conjuncts := none
    disjuncts := some [empty.setField .name name, empty.setField .owner (.plain "me")]
    negation := some (empty.setField .mimeType mimeType)
    conditions := Conditions.none }

/-- The name and the type, which is blank, are put in lists, and the owner stays a plain value. -/
theorem compile_ignores_phrasing_nameOrOwner :
    ∃ compiled, compile (.node (nameOrOwner (.plain "it's") (.plain "\u3000"))) = .ok compiled ∧
      compile (.node (nameOrOwner (.operator (.ofAny ["it's"])) (.operator (.ofAll ["\u3000"])))) =
        .ok compiled ∧
      compileWithin (.ofFolder "inbox")
          (.node (nameOrOwner (.operator (.ofAny ["it's"])) (.operator (.ofAll ["\u3000"])))) =
        compileWithin (.ofFolder "inbox")
          (.node (nameOrOwner (.plain "it's") (.plain "\u3000"))) := by
  have disjuncts : List.Forall₂ Rephrased
      [empty.setField .name (.plain "it's"), empty.setField .owner (.plain "me")]
      [empty.setField .name (.operator (.ofAny ["it's"])), empty.setField .owner (.plain "me")] :=
    .cons (rephrased_setField .name (.listed .disjunction "it's"))
      (.cons (rephrased_setField .owner (.same _)) .nil)
  have negation := rephrased_setField .mimeType (.listed .conjunction "\u3000")
  have conditions : Conditions.none.Rephrased Conditions.none := by
    refine ⟨fun field => ?_, rfl, rfl, rfl⟩
    cases field <;> exact .none
  have rephrases : Rephrased (.node (nameOrOwner (.plain "it's") (.plain "\u3000")))
      (.node (nameOrOwner (.operator (.ofAny ["it's"])) (.operator (.ofAll ["\u3000"])))) :=
    .node .none (.some disjuncts) (.some negation) conditions
  have compiles := (compile_node (nameOrOwner (.plain "it's") (.plain "\u3000"))).trans rfl
  obtain ⟨same, within⟩ := compile_ignores_phrasing rephrases
  exact ⟨_, compiles, same.trans compiles, within (.ofFolder "inbox")⟩

end Expression

end FileSearch
