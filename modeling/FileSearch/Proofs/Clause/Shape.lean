/-
This file shows that what every step of an emission keeps belongs to the clause of an expression. A
clause inside another one is an atom, a raw text, a group or a negation; alone, it can be a sequence
of such clauses too.
-/

import FileSearch.Proofs.Entries
import FileSearch.Proofs.Expression.Traversal

namespace FileSearch

/-- Two properties are kept by every way to build a clause. The first one belongs to clauses that
stand as a part, the second one to clauses that stand alone. -/
structure Clause.Kept (part whole : Clause → Prop) : Prop where
  alone : ∀ {clause}, part clause → whole clause
  joined : ∀ {connective first others}, (∀ clause ∈ first :: others, part clause) →
    whole (.joined connective (first :: others))
  grouped : ∀ {clause}, whole clause → part (.grouped clause)
  negated : ∀ {clause}, whole clause → part (.negated clause)

namespace Clause.Kept

variable {part whole : Clause → Prop} (kept : Kept part whole)

include kept

theorem join {connective : Connective} {parts : List Clause}
    (keep : ∀ clause ∈ parts, part clause) :
    ∀ clause ∈ Clause.join connective parts, whole clause := by
  intro clause emitted
  match parts with
  | [] => cases emitted
  | [only] =>
    cases emitted
    exact kept.alone (keep clause List.mem_cons_self)
  | first :: second :: others =>
    cases emitted
    exact kept.joined keep

theorem chain {connective : Connective} {parts : List Clause}
    (keep : ∀ clause ∈ parts, part clause) :
    ∀ clause ∈ Clause.chain connective parts, part clause := by
  intro clause emitted
  match parts with
  | [] => cases emitted
  | [only] =>
    cases emitted
    exact keep clause List.mem_cons_self
  | first :: second :: others =>
    cases emitted
    exact kept.grouped (kept.joined keep)

theorem negation {inner : Option Clause} (keep : ∀ clause ∈ inner, whole clause) :
    ∀ clause ∈ inner.map .negated, part clause := by
  intro clause emitted
  obtain ⟨negated, found, rfl⟩ := Option.map_eq_some_iff.mp emitted
  exact kept.negated (keep negated found)

omit kept in
theorem values {field : Field} {texts : List String}
    (keep : ∀ atom ∈ texts.map (.matching field), part (.atom atom)) :
    ∀ clause ∈ texts.map fun text => .atom (.matching field text), part clause := by
  intro clause emitted
  obtain ⟨text, member, rfl⟩ := List.mem_map.mp emitted
  exact keep _ (List.mem_map_of_mem member)

theorem operator {field : Field} {lists : FieldOperator}
    (keep : ∀ atom ∈ lists.atoms field, part (.atom atom)) :
    ∀ clause ∈ lists.clause? field, part clause := by
  simp only [FieldOperator.atoms, List.map_append, List.forall_mem_append] at keep
  refine kept.chain (forall_mem_filterMap_id ?_)
  rw [List.forall_mem_cons, List.forall_mem_cons, List.forall_mem_singleton]
  refine ⟨kept.chain (values keep.1.1), kept.chain (values keep.1.2), ?_⟩
  exact kept.negation (kept.join (values keep.2))

theorem fieldValue {field : Field} {tested : FieldValue}
    (keep : ∀ atom ∈ tested.atoms field, part (.atom atom)) :
    ∀ clause ∈ tested.clause? field, part clause := by
  cases tested with
  | operator lists => exact kept.operator keep
  | plain text =>
    rw [FieldValue.atoms, visible_singleton] at keep
    rw [FieldValue.clause?]
    cases blank : Text.isBlank text.toList with
    | true => simp
    | false => simpa [blank] using keep

omit kept in
theorem bound {atom : String → Atom} {bound : Option String}
    (keep : ∀ tested ∈ (visible bound.toList).map atom, part (.atom tested)) :
    ∀ clause ∈ Emission.bound? atom bound, part clause := by
  cases bound with
  | none => simp [Emission.bound?]
  | some text =>
    rw [Option.toList_some, visible_singleton] at keep
    rw [Emission.bound?, Option.filter_some]
    cases blank : Text.isBlank text.toList with
    | true => simp
    | false => simpa [blank] using keep

theorem range {range : DateRange} (keep : ∀ atom ∈ range.atoms, part (.atom atom)) :
    ∀ clause ∈ Emission.range range, part clause := by
  rw [DateRange.atoms, List.forall_mem_append] at keep
  refine kept.chain (forall_mem_filterMap_id ?_)
  rw [List.forall_mem_cons, List.forall_mem_singleton]
  exact ⟨bound keep.1, bound keep.2⟩

omit kept in
theorem rawText (text : Option String)
    (keep : ∀ raw ∈ text.toList, ¬ Text.isBlank raw.toList → part (.verbatim raw)) :
    ∀ clause ∈ text.bind Clause.ofText?, part clause := by
  cases text with
  | none => simp
  | some raw =>
    rw [Option.toList_some, List.forall_mem_singleton] at keep
    rw [Option.bind_some, Clause.ofText?]
    cases blank : Text.isBlank raw.toList with
    | true => simp
    | false => simpa using keep (by simp [blank])

theorem conditions {conditions : Conditions}
    (keep : ∀ atom ∈ conditions.atoms, part (.atom atom))
    (keepRaw : ∀ text ∈ conditions.rawQuery.toList, ¬ Text.isBlank text.toList →
      part (.verbatim text)) :
    ∀ clause ∈ conditions.clauses, part clause := by
  simp only [Conditions.atoms, List.forall_mem_append] at keep
  obtain ⟨⟨keepFlags, keepRange⟩, keepFields⟩ := keep
  refine forall_mem_filterMap_id ?_
  simp only [List.forall_mem_append, List.forall_mem_singleton]
  refine ⟨⟨⟨?_, ?_⟩, ?_⟩, rawText _ keepRaw⟩
  · intro possible member clause emitted
    obtain ⟨flag, known, rfl⟩ := List.mem_map.mp member
    obtain ⟨value, found, rfl⟩ := Option.map_eq_some_iff.mp emitted
    refine keepFlags _ (List.mem_flatMap.mpr ⟨flag, known, ?_⟩)
    simp [found]
  · intro clause emitted
    obtain ⟨range, found, ranged⟩ := Option.bind_eq_some_iff.mp emitted
    refine kept.range (fun atom member => keepRange atom ?_) clause ranged
    exact List.mem_flatMap.mpr ⟨range, Option.mem_toList.mpr found, member⟩
  · intro possible member clause emitted
    obtain ⟨field, known, rfl⟩ := List.mem_map.mp member
    obtain ⟨tested, found, fielded⟩ := Option.bind_eq_some_iff.mp emitted
    refine kept.fieldValue (fun atom member => keepFields atom ?_) clause fielded
    refine List.mem_flatMap.mpr ⟨field, known, ?_⟩
    exact List.mem_flatMap.mpr ⟨tested, Option.mem_toList.mpr found, member⟩

theorem group {connective : Connective} {children : Option (List (Option Clause))}
    (keep : ∀ child ∈ children.getD [], ∀ clause ∈ child, part clause) :
    ∀ clause ∈ Node.groupClause? connective children, whole clause :=
  kept.join (forall_mem_filterMap_id keep)

/-- Inside another expression the combined parts are put in parentheses. -/
theorem assembleInside {combined others : List Clause}
    (keepCombined : ∀ clause ∈ combined, whole clause)
    (keepOthers : ∀ clause ∈ others, part clause) :
    ∀ clause ∈ Emission.assemble false combined others, part clause := by
  refine kept.chain (List.forall_mem_append.mpr ⟨?_, keepOthers⟩)
  intro clause member
  obtain ⟨inner, found, rfl⟩ := List.mem_map.mp member
  exact kept.grouped (keepCombined inner found)

/-- A single part of the root stands alone. -/
theorem assembleRoot {combined others : List Clause}
    (keepCombined : ∀ clause ∈ combined, whole clause)
    (keepOthers : ∀ clause ∈ others, part clause) :
    ∀ clause ∈ Emission.assemble true combined others, whole clause := by
  intro clause emitted
  unfold Emission.assemble at emitted
  split at emitted
  · next only single =>
    cases emitted
    have member : clause ∈ combined ++ others := single ▸ List.mem_cons_self
    rcases List.mem_append.mp member with found | found
    · exact keepCombined clause found
    · exact kept.alone (keepOthers clause found)
  · exact kept.alone (kept.assembleInside keepCombined keepOthers clause emitted)

theorem combined {parts : Node (Option Clause)}
    (keep : ∀ child ∈ parts.children, ∀ clause ∈ child, part clause) :
    ∀ clause ∈ parts.combined, whole clause := by
  simp only [Node.children, List.forall_mem_append] at keep
  refine forall_mem_filterMap_id ?_
  rw [List.forall_mem_cons, List.forall_mem_singleton]
  exact ⟨kept.group keep.1.1, kept.group keep.1.2⟩

theorem others {parts : Node (Option Clause)}
    (keep : ∀ child ∈ parts.children, ∀ clause ∈ child, part clause)
    (keepConditions : ∀ clause ∈ parts.conditions.clauses, part clause) :
    ∀ clause ∈ parts.others, part clause := by
  simp only [Node.children, List.forall_mem_append] at keep
  refine forall_mem_filterMap_id ?_
  rw [List.forall_mem_cons, List.forall_mem_singleton]
  refine ⟨kept.negation ?_, kept.chain keepConditions⟩
  intro clause emitted
  have present := Option.mem_toList.mpr (Option.join_eq_some_iff.mp emitted)
  exact kept.alone (keep.2 (some clause) present clause rfl)

end Clause.Kept

namespace Expression

variable {part whole : Clause → Prop} (kept : Clause.Kept part whole)

/-- The property is kept by all atoms and by all visible raw texts of an expression. -/
def Keeps (part : Clause → Prop) (expression : Expression) : Prop :=
  (∀ atom ∈ expression.atoms, part (.atom atom)) ∧
    ∀ text ∈ expression.rawTexts, ¬ Text.isBlank text.toList → part (.verbatim text)

theorem Keeps.child {parts : Node Expression} (keeps : Keeps part (.node parts)) :
    ∀ child ∈ parts.children, Keeps part child := by
  rw [Keeps, atoms_node, rawTexts_node] at keeps
  intro child member
  refine ⟨fun atom found => keeps.1 atom ?_, fun text found => keeps.2 text ?_⟩
  · exact List.mem_append_left _ (List.mem_flatMap.mpr ⟨child, member, found⟩)
  · exact List.mem_append_left _ (List.mem_flatMap.mpr ⟨child, member, found⟩)

include kept

theorem Keeps.conditions {parts : Node Expression} (keeps : Keeps part (.node parts)) :
    ∀ clause ∈ parts.conditions.clauses, part clause := by
  rw [Keeps, atoms_node, rawTexts_node] at keeps
  refine kept.conditions (fun atom found => keeps.1 atom ?_) fun text found => keeps.2 text ?_
  · exact List.mem_append_right _ found
  · exact List.mem_append_right _ found

theorem Keeps.clause {expression : Expression} (keeps : Keeps part expression) :
    ∀ clause ∈ expression.clause?, part clause := by
  induction expression using Expression.induct with
  | atRaw text => exact Clause.Kept.rawText (some text) keeps.2
  | atNode parts inductionHypothesis =>
    rw [clause?_node]
    have keep : ∀ child ∈ (parts.map clause?).children, ∀ clause ∈ child, part clause := by
      rw [Node.children_map, List.forall_mem_map]
      exact fun child member => inductionHypothesis child member (keeps.child child member)
    exact kept.assembleInside (kept.combined keep) (kept.others keep (keeps.conditions kept))

theorem Keeps.rootClause {expression : Expression} (keeps : Keeps part expression) :
    ∀ clause ∈ expression.rootClause?, whole clause := by
  cases expression with
  | raw text => exact fun clause emitted => kept.alone (keeps.clause kept clause emitted)
  | node parts =>
    have keep : ∀ child ∈ (parts.map clause?).children, ∀ clause ∈ child, part clause := by
      rw [Node.children_map, List.forall_mem_map]
      exact fun child member => (keeps.child child member).clause kept
    exact kept.assembleRoot (kept.combined keep) (kept.others keep (keeps.conditions kept))

end Expression

end FileSearch
