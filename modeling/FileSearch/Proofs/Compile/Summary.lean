/-
This file compares the summary of a compiled expression with its query. What the one records is what
the other tests, in the same order.
-/

import FileSearch.Proofs.Compile.Meaning
import FileSearch.Proofs.Query.Content

namespace FileSearch

open Summary (Change)

namespace Atom

/-- This is the value that an atom tests a field for. -/
def value? (field : Field) : Atom → Option String
  | .matching tested value => if tested = field then some value else none
  | .marked _ _ => none
  | .modifiedNotBefore _ => none
  | .modifiedBefore _ => none

/-- This is the value that an atom tests a flag for. -/
def mark? (flag : Flag) : Atom → Option Bool
  | .matching _ _ => none
  | .marked tested value => if tested = flag then some value else none
  | .modifiedNotBefore _ => none
  | .modifiedBefore _ => none

theorem mark?_eq_some_iff (flag : Flag) (atom : Atom) (value : Bool) :
    atom.mark? flag = some value ↔ atom = .marked flag value := by
  cases atom with
  | marked tested set =>
    rw [mark?, Option.ite_none_right_eq_some, Option.some.injEq, marked.injEq]
  | matching field text => simp [mark?]
  | modifiedNotBefore bound => simp [mark?]
  | modifiedBefore bound => simp [mark?]

/-- Atoms are recorded without reading a summary. -/
theorem reloaded?_changes (atoms : List Atom) : ∀ step ∈ changes atoms, step.reloaded? = none := by
  intro step member
  obtain ⟨atom, _, recorded⟩ := List.mem_filterMap.mp member
  cases atom <;> cases recorded <;> rfl

theorem values_changes (atoms : List Atom) (field : Field) :
    (changes atoms).filterMap (Change.value? field) = atoms.filterMap (value? field) := by
  rw [changes, List.filterMap_filterMap]
  apply List.filterMap_congr
  intro atom _
  cases atom <;> rfl

theorem marks_changes (atoms : List Atom) (flag : Flag) :
    (changes atoms).filterMap (Change.flag? flag) = atoms.filterMap (mark? flag) := by
  rw [changes, List.filterMap_filterMap]
  apply List.filterMap_congr
  intro atom _
  cases atom <;> rfl

end Atom

namespace Expression

section

variable {expression : Expression} {compiled : Compiled}

/-- The summary records the atoms of the expression. -/
theorem filters_of_compile (compiles : expression.compile = .ok compiled) :
    compiled.filters = Summary.empty.changes (Atom.changes expression.atoms) := by
  cases expression with
  | raw text =>
    cases compiles
    rfl
  | node parts =>
    rw [(compile_node_eq_ok_iff.mp compiles).2]
    rfl

theorem values_filters (compiles : expression.compile = .ok compiled) (field : Field) :
    compiled.filters.values.get field = expression.atoms.filterMap (Atom.value? field) := by
  rw [filters_of_compile compiles,
    Summary.values_changes Summary.empty (Atom.reloaded?_changes _), Atom.values_changes]
  exact congrArg (· ++ _) (FieldMap.get_replicate [] field)

theorem flags_filters (compiles : expression.compile = .ok compiled) (flag : Flag) :
    compiled.filters.flags.get flag =
      (expression.atoms.filterMap (Atom.mark? flag)).getLast? := by
  rw [filters_of_compile compiles,
    Summary.flags_changes Summary.empty (Atom.reloaded?_changes _), Atom.marks_changes]
  rw [show Summary.empty.flags.get flag = none from FlagMap.get_replicate none flag, Option.or_none]

end

variable {parts : Node Expression} {compiled : Compiled}

/-- The query tests the atoms of the expression, from left to right. -/
theorem content?_queryString (noRaw : (node parts).rawTexts = [])
    (plain : ∀ atom ∈ (node parts).atoms, atom.Plain)
    (compiles : compile (.node parts) = .ok compiled) :
    Query.content? compiled.queryString.toList = some (node parts).atoms := by
  obtain ⟨filters, rfl⟩ := eq_ofClause_of_compile compiles
  have listed : ∀ clause ∈ rootClause? (.node parts), clause.Listed :=
    (keeps_of_atoms noRaw fun atom member => Clause.listed_atom (plain atom member)).rootClause
      Clause.kept_listed
  rw [← content_rootClause?]
  cases found : rootClause? (.node parts) with
  | none =>
    rw [Compiled.queryString_ofClause_none]
    rfl
  | some clause =>
    obtain ⟨query, read, same⟩ := listed clause found
    rw [Compiled.queryString_ofClause read, String.toList_ofList, Query.content?_of_parse? read,
      same, Clause.content, Option.toList_some, List.flatMap_singleton]

/-- The summary holds what the query tests: for each field the values of its atoms from left to
right, and for each flag the value of its last atom. -/
theorem filters_match_query (noRaw : (node parts).rawTexts = [])
    (plain : ∀ atom ∈ (node parts).atoms, atom.Plain)
    (compiles : compile (.node parts) = .ok compiled) :
    ∃ tested, Query.content? compiled.queryString.toList = some tested ∧
      (∀ field, compiled.filters.values.get field = tested.filterMap (Atom.value? field)) ∧
      ∀ flag,
        compiled.filters.flags.get flag = (tested.filterMap (Atom.mark? flag)).getLast? ∧
        (compiled.filters.flags.get flag = none ↔ ∀ value, .marked flag value ∉ tested) := by
  refine ⟨_, content?_queryString noRaw plain compiles, values_filters compiles, fun flag =>
    ⟨flags_filters compiles flag, ?_⟩⟩
  rw [flags_filters compiles flag, List.getLast?_eq_none_iff, List.filterMap_eq_nil_iff]
  constructor
  · intro none value member
    cases (none _ member).symm.trans ((Atom.mark?_eq_some_iff flag _ value).mpr rfl)
  · intro absent atom member
    rw [Option.eq_none_iff_forall_ne_some]
    intro value marks
    rw [Atom.mark?_eq_some_iff] at marks
    exact absent value (marks ▸ member)

/-- This node repeats a value and a flag, and has a value under a negation. -/
def repeatedOwner : Node Expression :=
  { Node.empty with
    disjuncts := some [
      (empty.setFlag .starred (some true)).setField .name (.operator (.ofNone ["draft"])),
      empty.setNegation (empty.setField .name (.plain "old")),
      (empty.setFlag .starred (some false)).setField .owner (.operator (.ofAll ["me", "me"]))] }

theorem filters_match_query_repeatedOwner :
    ∃ compiled tested, compile (.node repeatedOwner) = .ok compiled ∧
      Query.content? compiled.queryString.toList = some tested ∧
      tested.filterMap (Atom.value? .name) = ["draft", "old"] ∧
      tested.filterMap (Atom.value? .owner) = ["me", "me"] ∧
      (tested.filterMap (Atom.mark? .starred)).getLast? = some false := by
  have compiles := (compile_node repeatedOwner).trans rfl
  have atoms : (node repeatedOwner).atoms =
      [.marked .starred true, .matching .name "draft", .matching .name "old",
        .marked .starred false, .matching .owner "me", .matching .owner "me"] := by decide
  have plain : ∀ atom ∈ (node repeatedOwner).atoms, atom.Plain := by
    rw [atoms]
    simp [Atom.Plain, Atom.literal?]
  obtain ⟨tested, content, values, flags⟩ := filters_match_query (by decide) plain compiles
  refine ⟨_, tested, compiles, content, (values .name).symm.trans ?_,
    (values .owner).symm.trans ?_, (flags .starred).1.symm.trans ?_⟩
  · rw [values_filters compiles, atoms]
    rfl
  · rw [values_filters compiles, atoms]
    rfl
  · rw [flags_filters compiles, atoms]
    rfl

end Expression

end FileSearch
