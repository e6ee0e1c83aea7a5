/-
This file shows which files satisfy a query that was restricted to a scope: those that satisfy the
query and are admitted by the scope.
-/

import FileSearch.Proofs.Compile.Meaning
import FileSearch.Proofs.Expression.Conjuncts
import FileSearch.Proofs.Query.Operator
import FileSearch.Scope

namespace FileSearch

theorem Connective.verdict?_getD (parts : List Bool) :
    (conjunction.verdict? parts).getD true = parts.all id := by
  cases parts <;> rfl

/-- Every file satisfies the empty text. Any other text is satisfied as the query that it is read
as. -/
def Query.reading? (text : List Char) : Option ((Atom → Bool) → Bool) :=
  if text = [] then some fun _ => true
  else (parse? text).map fun query truth => query.holds truth

theorem Query.reading?_of_parse? {text : List Char} {query : Query}
    (read : parse? text = some query) : reading? text = some fun truth => query.holds truth := by
  have nonempty : text ≠ [] := by
    rintro rfl
    cases visible_of_parse? read
  rw [reading?, if_neg nonempty, read, Option.map_some]

namespace Clause

theorem reading?_textOf {clause : Option Clause} (meant : ∀ found ∈ clause, Meant found) :
    Query.reading? (textOf clause) = some fun truth => (clause.map (holds truth)).getD true := by
  cases clause with
  | none => rfl
  | some found =>
    obtain ⟨query, read, same⟩ := meant found rfl
    rw [textOf, Query.reading?_of_parse? read, funext same]
    rfl

theorem textOf_eq_nil_iff {clause : Option Clause} (meant : ∀ found ∈ clause, Meant found) :
    textOf clause = [] ↔ clause = none := by
  cases clause with
  | none => exact iff_of_true rfl rfl
  | some found =>
    obtain ⟨query, read, _⟩ := meant found rfl
    refine iff_of_false (fun empty => ?_) (Option.some_ne_none found)
    rw [textOf] at empty
    rw [empty] at read
    cases Query.visible_of_parse? read

theorem reading?_join {parts : List Clause}
    (meant : ∀ found ∈ join .conjunction parts, Meant found) :
    Query.reading? (textOf (join .conjunction parts)) =
      some fun truth => (parts.map (holds truth)).all id := by
  rw [reading?_textOf meant]
  simp only [holds_join, Connective.verdict?_getD]

variable {text : String} {query : Query} (read : Query.parse? text.toList = some query)

include read

theorem holds_verbatim (truth : Atom → Bool) : (verbatim text).holds truth = query.holds truth := by
  rw [holds, fold, read, Option.any_some]

theorem meant_verbatim : Meant (.verbatim text) :=
  ⟨query, read, fun truth => (holds_verbatim read truth).symm⟩

theorem compact_verbatim (bind : query.isConjunction) : Compact (.verbatim text) :=
  ⟨query, read, bind, fun truth => (holds_verbatim read truth).symm⟩

/-- A restricted query is put in parentheses exactly when it needs them. -/
theorem compact_queryClause : Compact (Scope.queryClause text true) := by
  rw [Scope.queryClause, Bool.true_and, Query.hasTopLevelOperator_of_parse? read]
  cases factor : query.isFactor with
  | true => exact compact_verbatim read (Query.isConjunction_of_isFactor factor)
  | false => exact kept_meant.grouped (meant_verbatim read)

theorem holds_queryClause (restricted : Bool) (truth : Atom → Bool) :
    (Scope.queryClause text restricted).holds truth = query.holds truth := by
  rw [Scope.queryClause]
  split
  · exact holds_verbatim read truth
  · exact holds_verbatim read truth

end Clause

namespace Scope

/-- The folder is the one of the scope, where it names one. -/
def admitsFolder (scope : Scope) (truth : Atom → Bool) : Bool :=
  scope.folder.all fun folder =>
    Text.isBlank folder.toList || truth (.matching .parentId folder)

/-- The file is not in the trash, unless the scope or the expression settles this. -/
def admitsTrashed (scope : Scope) (expression : Expression) (truth : Atom → Bool) : Bool :=
  scope.includeTrashed || expression.constrainsTrashed || truth (.marked .trashed false)

variable {scope : Scope}

/-- Each restriction is an atom, whose literal is the folder where it has one. -/
theorem exists_atom_of_mem_restrictions (scope : Scope) (expression : Expression) :
    ∀ clause ∈ scope.restrictions expression, ∃ condition, clause = .atom condition ∧
      ((∀ folder ∈ scope.folder, '\\' ∉ folder.toList) → condition.Plain) := by
  refine forall_mem_filterMap_id ?_
  rw [List.forall_mem_cons, List.forall_mem_singleton]
  constructor
  · intro clause restricted
    obtain ⟨folder, found, rfl⟩ := Option.map_eq_some_iff.mp restricted
    obtain ⟨named, _⟩ := Option.filter_eq_some_iff.mp found
    refine ⟨_, rfl, fun plainFolder => ?_⟩
    rintro _ ⟨⟩
    exact plainFolder folder named
  · intro clause restricted
    rw [trashClause?] at restricted
    split at restricted
    · cases restricted
    · cases restricted
      refine ⟨_, rfl, fun _ => ?_⟩
      rintro _ ⟨⟩

theorem compact_restrictions (plainFolder : ∀ folder ∈ scope.folder, '\\' ∉ folder.toList)
    (expression : Expression) : ∀ clause ∈ scope.restrictions expression, clause.Compact := by
  intro clause member
  obtain ⟨condition, rfl, plain⟩ := scope.exists_atom_of_mem_restrictions expression clause member
  exact Clause.compact_atom (plain plainFolder)

theorem holds_restrictions (expression : Expression) (truth : Atom → Bool) :
    ((scope.restrictions expression).map (Clause.holds truth)).all id =
      (scope.admitsFolder truth && scope.admitsTrashed expression truth) := by
  have folder : (scope.folderClause?.toList.map (Clause.holds truth)).all id =
      scope.admitsFolder truth := by
    rw [folderClause?, admitsFolder]
    cases scope.folder with
    | none => rfl
    | some folder =>
      rw [Option.filter_some, Option.all_some]
      cases Text.isBlank folder.toList <;> simp [Clause.holds, Clause.fold]
  have trashed : ((scope.trashClause? expression).toList.map (Clause.holds truth)).all id =
      scope.admitsTrashed expression truth := by
    rw [trashClause?, admitsTrashed]
    cases scope.includeTrashed || expression.constrainsTrashed <;>
      simp [Clause.holds, Clause.fold]
  rw [restrictions, filterMap_id_cons, filterMap_id_cons, List.filterMap_nil, List.append_nil,
    List.map_append, List.all_append, folder, trashed]

/-- These are the clauses that are joined to a restricted query. -/
def parts (scope : Scope) (text : String) (expression : Expression) : List Clause :=
  (if Text.isBlank text.toList then []
    else [queryClause text (!(scope.restrictions expression).isEmpty)]) ++
    scope.restrictions expression

theorem toList_apply (text : String) (expression : Expression) :
    (scope.apply text expression).toList =
      Clause.textOf (Clause.join .conjunction (scope.parts text expression)) :=
  String.toList_ofList

theorem text_queryClause (text : String) (restricted : Bool) :
    (queryClause text restricted).text =
      if restricted && Text.hasTopLevelOperator text.toList then
        "(".toList ++ (text.toList ++ ")".toList)
      else text.toList := by
  rw [queryClause]
  split <;> rfl

/-- A blank text is left out. -/
theorem toList_apply_of_blank {text : String} (blank : Text.isBlank text.toList = true)
    (expression : Expression) :
    (scope.apply text expression).toList =
      Clause.joinedText .conjunction (scope.restrictions expression) := by
  rw [toList_apply, Clause.textOf_join, parts, if_pos blank, List.nil_append]

theorem toList_apply_of_visible {text : String} (visible : Text.isBlank text.toList = false)
    (expression : Expression) :
    (scope.apply text expression).toList =
      (queryClause text (!(scope.restrictions expression).isEmpty)).text ++
        (scope.restrictions expression).flatMap fun part =>
          Connective.conjunction.separator ++ part.text := by
  rw [toList_apply, Clause.textOf_join, parts, if_neg (Bool.eq_false_iff.mp visible),
    List.singleton_append, Clause.joinedText_cons]

theorem parts_of_empty {text : String} (empty : text.toList = []) (expression : Expression) :
    scope.parts text expression = scope.restrictions expression := by
  rw [parts, empty, Text.isBlank_nil, if_pos rfl, List.nil_append]

theorem parts_of_parse? {text : String} {query : Query}
    (read : Query.parse? text.toList = some query) (expression : Expression) :
    scope.parts text expression =
      queryClause text (!(scope.restrictions expression).isEmpty) ::
        scope.restrictions expression := by
  rw [parts, Query.visible_of_parse? read, if_neg Bool.false_ne_true, List.singleton_append]

variable {text : String} {part : (Atom → Bool) → Bool}
  (plainFolder : ∀ folder ∈ scope.folder, '\\' ∉ folder.toList)
  (read : Query.reading? text.toList = some part)

include plainFolder read

/-- A query without restrictions stands alone. Any other one is taken apart by no restriction. -/
theorem meant_parts (expression : Expression) :
    ∀ clause ∈ Clause.join .conjunction (scope.parts text expression), clause.Meant := by
  have compact := compact_restrictions plainFolder expression
  by_cases empty : text.toList = []
  · rw [parts_of_empty empty]
    exact Clause.kept_meant.join compact
  · rw [Query.reading?, if_neg empty, Option.map_eq_some_iff] at read
    obtain ⟨query, read, _⟩ := read
    rw [parts_of_parse? read]
    cases restricted : scope.restrictions expression with
    | nil =>
      rintro clause ⟨⟩
      exact Clause.meant_verbatim read
    | cons first others =>
      rw [restricted] at compact
      exact Clause.kept_meant.join
        (List.forall_mem_cons.mpr ⟨Clause.compact_queryClause read, compact⟩)

omit plainFolder in
theorem holds_parts (expression : Expression) (truth : Atom → Bool) :
    ((scope.parts text expression).map (Clause.holds truth)).all id =
      (part truth && (scope.admitsFolder truth && scope.admitsTrashed expression truth)) := by
  by_cases empty : text.toList = []
  · rw [Query.reading?, if_pos empty] at read
    cases read
    rw [parts_of_empty empty, holds_restrictions, Bool.true_and]
  · rw [Query.reading?, if_neg empty, Option.map_eq_some_iff] at read
    obtain ⟨query, read, rfl⟩ := read
    rw [parts_of_parse? read, List.map_cons, List.all_cons, holds_restrictions,
      Clause.holds_queryClause read, id]

/-- A file satisfies a restricted query when it satisfies the query and is admitted by the scope. -/
theorem reading?_apply (expression : Expression) :
    Query.reading? (scope.apply text expression).toList = some fun truth =>
      part truth && (scope.admitsFolder truth && scope.admitsTrashed expression truth) := by
  rw [toList_apply, Clause.reading?_join (meant_parts plainFolder read expression)]
  exact congrArg some (funext (holds_parts read expression))

/-- The text of a restricted query is empty exactly when there is nothing to join. -/
theorem apply_eq_empty_iff (expression : Expression) :
    scope.apply text expression = "" ↔ text = "" ∧ scope.restrictions expression = [] := by
  rw [← String.toList_eq_nil_iff, ← String.toList_eq_nil_iff, toList_apply]
  refine (Clause.textOf_eq_nil_iff (meant_parts plainFolder read expression)).trans ?_
  rw [Clause.join_eq_none_iff]
  by_cases empty : text.toList = []
  · rw [parts_of_empty empty]
    exact (and_iff_right empty).symm
  · refine iff_of_false ?_ fun both => empty both.1
    rw [Query.reading?, if_neg empty, Option.map_eq_some_iff] at read
    obtain ⟨query, read, _⟩ := read
    rw [parts_of_parse? read]
    exact List.cons_ne_nil _ _

end Scope

namespace Expression

variable {parts : Node Expression} {compiled : Compiled}

/-- The query of an expression that asks for nothing is satisfied by every file. -/
theorem reading?_compile (noRaw : (node parts).rawTexts = [])
    (plain : ∀ atom ∈ (node parts).atoms, atom.Plain)
    (compiles : compile (.node parts) = .ok compiled) :
    Query.reading? compiled.queryString.toList =
      some fun truth => ((node parts).verdict? truth).getD true := by
  obtain ⟨filters, rfl⟩ := eq_ofClause_of_compile compiles
  have meant := meant_rootClause noRaw plain
  have reading := Clause.reading?_textOf meant
  simp only [holds_rootClause?] at reading
  rw [← reading]
  cases found : rootClause? (.node parts) with
  | none => rw [Compiled.queryString_ofClause_none]; rfl
  | some clause =>
    obtain ⟨query, read, _⟩ := meant clause found
    rw [Compiled.queryString_ofClause read, String.toList_ofList, Clause.textOf]

theorem compileWithin_of_compile {expression : Expression} (scope : Scope)
    (compiles : expression.compile = .ok compiled) :
    expression.compileWithin scope =
      .ok { compiled with queryString := scope.apply compiled.queryString expression } := by
  rw [compileWithin, compiles]
  rfl

/-- The trash flag has one value in all files that satisfy a restricted expression. -/
theorem exists_trashed_value {scope : Scope} (excludes : scope.includeTrashed = false) :
    ∃ value,
      (value = true → ∃ reached, Reaches (.node parts) (.node reached) ∧
        reached.conditions.flags.get .trashed = some true) ∧
      ∀ truth, (((node parts).verdict? truth).getD true &&
        (scope.admitsFolder truth && scope.admitsTrashed (node parts) truth)) = true →
          truth (.marked .trashed value) = true := by
  cases constrains : (node parts).constrainsTrashed with
  | true =>
    obtain ⟨reached, value, reaches, found⟩ := exists_reached_of_constrainsTrashed constrains
    refine ⟨value, ?_, fun truth satisfied => ?_⟩
    · rintro rfl
      exact ⟨reached, reaches, found⟩
    · obtain ⟨verdict, judged, needed⟩ := exists_verdict?_of_reaches truth reaches found
      rw [judged, Option.getD_some, Bool.and_eq_true] at satisfied
      exact needed satisfied.1
  | false =>
    refine ⟨false, fun impossible => (Bool.false_ne_true impossible).elim,
      fun truth satisfied => ?_⟩
    rw [Scope.admitsTrashed, excludes, constrains, Bool.and_eq_true, Bool.and_eq_true] at satisfied
    exact satisfied.2.2

/-- A restricted expression is satisfied by the files that satisfy its query and are admitted by the
scope. Without the trash, all of them agree on the trash flag. -/
theorem compileWithin_preserves_meaning {scope : Scope} (noRaw : (node parts).rawTexts = [])
    (plain : ∀ atom ∈ (node parts).atoms, atom.Plain)
    (plainFolder : ∀ folder ∈ scope.folder, '\\' ∉ folder.toList)
    (compiles : compile (.node parts) = .ok compiled) :
    ∃ restricted part whole,
      compileWithin scope (.node parts) = .ok restricted ∧
      Query.reading? compiled.queryString.toList = some part ∧
      Query.reading? restricted.queryString.toList = some whole ∧
      (∀ truth, whole truth =
        (part truth && (scope.admitsFolder truth && scope.admitsTrashed (node parts) truth))) ∧
      (restricted.queryString = "" ↔
        compiled.queryString = "" ∧ scope.restrictions (node parts) = []) ∧
      (scope.includeTrashed = false → ∃ value,
        (value = true → ∃ reached, Reaches (.node parts) (.node reached) ∧
          reached.conditions.flags.get .trashed = some true) ∧
        ∀ truth, whole truth = true → truth (.marked .trashed value) = true) := by
  have read := reading?_compile noRaw plain compiles
  refine ⟨_, _, _, compileWithin_of_compile scope compiles, read,
    Scope.reading?_apply plainFolder read (node parts), fun _ => rfl, ?_, exists_trashed_value⟩
  exact Scope.apply_eq_empty_iff plainFolder read (node parts)

/-- This node asks for a star or for a name that is a keyword. -/
def starredOrNamed : Node Expression :=
  { Node.empty with
    disjuncts := some [empty.setFlag .starred (some true), empty.setField .name (.plain "a or b")] }

theorem compileWithin_preserves_meaning_starredOrNamed :
    ∃ compiled restricted part whole,
      compile (.node starredOrNamed) = .ok compiled ∧
      compileWithin (.ofFolder "inbox") (.node starredOrNamed) = .ok restricted ∧
      Query.reading? compiled.queryString.toList = some part ∧
      Query.reading? restricted.queryString.toList = some whole ∧
      ∀ truth, whole truth = (part truth &&
        (truth (.matching .parentId "inbox") && truth (.marked .trashed false))) := by
  have compiles := (compile_node starredOrNamed).trans rfl
  have atoms : (node starredOrNamed).atoms =
      [.marked .starred true, .matching .name "a or b"] := by decide
  have plain : ∀ atom ∈ (node starredOrNamed).atoms, atom.Plain := by
    rw [atoms]
    simp [Atom.Plain, Atom.literal?]
  have plainFolder : ∀ folder ∈ (Scope.ofFolder "inbox").folder, '\\' ∉ folder.toList := by
    rintro _ ⟨⟩
    decide
  obtain ⟨restricted, part, whole, within, read, readRestricted, same, _⟩ :=
    compileWithin_preserves_meaning (by decide) plain plainFolder compiles
  exact ⟨_, restricted, part, whole, compiles, within, read, readRestricted, same⟩

end Expression

end FileSearch
