/-
This file shows when no file of the trash satisfies a restricted expression. The flag that an
expression sets replaces the restriction, so that it must not be joined to a raw text that a
conjunction takes apart.
-/

import FileSearch.Proofs.Compile.Within
import FileSearch.Proofs.Expression.Guard

namespace FileSearch

namespace Expression

variable {scope : Scope} {expression : Expression} {query : Query}

theorem mem_restrictions (excludes : scope.includeTrashed = false)
    (unsettled : expression.constrainsTrashed = false) :
    .atom (.marked .trashed false) ∈ scope.restrictions expression := by
  have restricted : scope.trashClause? expression = some (.atom (.marked .trashed false)) := by
    rw [Scope.trashClause?, excludes, unsettled]
    rfl
  rw [Scope.restrictions, restricted]
  exact List.mem_filterMap.mpr ⟨_, List.mem_cons_of_mem _ List.mem_cons_self, rfl⟩

/-- A guarded flag is demanded of all files that satisfy a restricted expression. -/
theorem Guarded.demanded {flag : Flag} {value : Bool} (guarded : expression.Guarded flag value)
    (raw : expression.RawReadable) (means : MeansWithin scope expression query) :
    ∀ truth, query.holds truth → truth (.marked flag value) := by
  obtain ⟨root, found, demands⟩ := guarded.demandsRoot (means.operands raw)
  have fenced := Clause.fenced_of demands demands.grouped
    (!(scope.restrictions expression).isEmpty)
  have clauses : scopedClauses scope expression =
      root.fenced (!(scope.restrictions expression).isEmpty) ::
        scope.restrictions expression := by
    rw [scopedClauses, found]
    rfl
  refine means.demanded raw ?_ ?_ fenced
  · rw [clauses, List.forall_mem_cons]
    exact ⟨fenced.bound, means.bound_restrictions raw⟩
  · rw [clauses]
    exact List.mem_cons_self

section

variable (excludes : scope.includeTrashed = false)
  (raw : expression.RawReadable)

include excludes raw

/-- The restriction binds to the whole of an expression that does not set the flag. -/
theorem MeansWithin.demanded_outside (means : MeansWithin scope expression query)
    (unsettled : expression.constrainsTrashed = false) :
    ∀ truth, query.holds truth → truth (.marked .trashed false) := by
  have member := mem_restrictions excludes unsettled
  have restricted : (!(scope.restrictions expression).isEmpty) = true := by
    rw [Bool.not_eq_true', List.isEmpty_eq_false_iff]
    exact List.ne_nil_of_mem member
  have demands : (Clause.atom (.marked .trashed false)).Demands (.marked .trashed false) :=
    Clause.demands_atom fun literal present => by cases present
  refine means.demanded raw ?_ (List.mem_append_right _ member) demands
  rw [scopedClauses, restricted, List.forall_mem_append, List.forall_mem_map]
  refine ⟨fun root found => Clause.bound_fenced ?_, means.bound_restrictions raw⟩
  exact (means.operands raw).rootClause Clause.kept_operand root (Option.mem_toList.mp found)

/-- All files that satisfy a restricted expression agree on the trash flag, which is the guarded one
or the one of the restriction. -/
theorem MeansWithin.exists_value (means : MeansWithin scope expression query)
    (guarded : expression.constrainsTrashed = true →
      ∃ value, expression.Guarded .trashed value) :
    ∃ value, (value = true → ∃ reached, Reaches expression (.node reached) ∧
        reached.conditions.flags.get .trashed = some true) ∧
      ∀ truth, query.holds truth → truth (.marked .trashed value) := by
  cases constrains : expression.constrainsTrashed with
  | true =>
    obtain ⟨value, guarded⟩ := guarded constrains
    refine ⟨value, ?_, guarded.demanded raw means⟩
    rintro rfl
    exact guarded.exists_reached
  | false =>
    exact ⟨false, fun impossible => (Bool.false_ne_true impossible).elim,
      means.demanded_outside excludes raw constrains⟩

omit raw in
/-- An expression that sets the flag has a clause, and one that does not is restricted. -/
theorem scopedClauses_ne_nil : scopedClauses scope expression ≠ [] := by
  cases constrains : expression.constrainsTrashed with
  | true =>
    obtain ⟨parts, value, reaches, found⟩ := exists_reached_of_constrainsTrashed constrains
    obtain ⟨verdict, judged, _⟩ := exists_verdict?_of_reaches (fun _ => true) reaches found
    rw [← holds_rootClause?] at judged
    obtain ⟨root, emitted, _⟩ := Option.map_eq_some_iff.mp judged
    rw [scopedClauses, emitted]
    exact List.cons_ne_nil _ _
  | false =>
    exact List.ne_nil_of_mem (List.mem_append_right _ (mem_restrictions excludes constrains))

/-- Without backslashes every restricted expression that is not refused is read as a query. -/
theorem exists_meansWithin (accepted : expression.violation? = none)
    (plain : ∀ atom ∈ expression.atoms, atom.Plain)
    (plainFolder : ∀ folder ∈ scope.folder, '\\' ∉ folder.toList) :
    ∃ query, MeansWithin scope expression query := by
  have operands := keeps_operand raw fun atom member =>
    (Clause.demands_atom (plain atom member)).bound
  have readable : ∀ clause ∈ scopedClauses scope expression, clause.Readable := by
    rw [scopedClauses, List.forall_mem_append, List.forall_mem_map]
    constructor
    · intro root found
      have whole := operands.rootClause Clause.kept_operand root (Option.mem_toList.mp found)
      exact Clause.fenced_of whole (Clause.kept_readable.grouped whole) _
    · intro clause member
      obtain ⟨query, read, _⟩ := Scope.compact_restrictions plainFolder expression clause member
      exact ⟨query, read⟩
  obtain ⟨compiled, compiles⟩ := exists_compile accepted
  have within := compileWithin_of_compile scope compiles
  have framed := (keeps_framed raw).rootClause Clause.kept_framed
  cases joined : Clause.join .conjunction (scopedClauses scope expression) with
  | none =>
    exact absurd ((Clause.join_eq_none_iff _ _).mp joined) (scopedClauses_ne_nil excludes)
  | some whole =>
    obtain ⟨query, read⟩ := Clause.kept_readable.join readable whole joined
    refine ⟨query, _, within, ?_⟩
    rw [toList_compileWithin framed within, joined]
    exact read

end

/-- This expression asks for the files outside the trash. -/
def outsideTrash : Expression :=
  empty.setFlag .trashed (some false)

/-- The atoms of a raw text are hidden. -/
theorem Loose.atoms_eq_nil (loose : expression.Loose) : expression.atoms = [] := by
  obtain ⟨text, query, alone, read, _⟩ := loose
  have visible := Query.visible_of_parse? read
  have verbatim := (clause?_eq_verbatim_iff expression text).mpr ⟨alone, visible⟩
  rw [← content_clause?, verbatim]
  rfl

/-- No node that is reached through conjuncts asks for the trash. -/
def AsksForNoTrash (expression : Expression) : Prop :=
  ∀ reached, Reaches expression (.node reached) →
    reached.conditions.flags.get .trashed ≠ some true

theorem AsksForNoTrash.setConjuncts {children : List Expression}
    (each : ∀ child ∈ children, child.AsksForNoTrash) :
    (empty.setConjuncts children).AsksForNoTrash := by
  intro reached reaches
  cases reaches with
  | self =>
    have unset : Conditions.none.flags.get .trashed ≠ some true := by decide
    exact unset
  | conjunct member reaches => exact each _ member reached reaches

theorem asksForNoTrash_outsideTrash : outsideTrash.AsksForNoTrash := by
  intro reached reaches
  cases reaches with
  | self => decide
  | conjunct member _ => cases member

/-- A conjunction takes a loose expression apart, so that the flag in front of it or behind it binds
to a part of it only. -/
theorem Loose.escapes (loose : expression.Loose)
    (raw : expression.RawReadable)
    (plainFolder : ∀ folder ∈ scope.folder, '\\' ∉ folder.toList)
    (means : expression.Means query) :
    ∃ behind before,
      MeansWithin scope (empty.setConjuncts [expression, outsideTrash]) behind ∧
      MeansWithin scope (empty.setConjuncts [outsideTrash, expression]) before ∧
      ∀ truth, query.holds truth → scope.admitsFolder truth →
        behind.holds truth = true ∨ before.holds truth = true := by
  have wellFormed : expression.WellFormed := by
    refine ⟨?_, raw⟩
    rw [loose.atoms_eq_nil]
    exact List.forall_mem_nil _
  have splits := means.splits wellFormed loose
  have accepted := means.violation?
  obtain ⟨clause, reading, inside, read, _, _, same⟩ := means.operand wellFormed
  obtain rfl := same loose
  have settled : outsideTrash.violation? = none := by decide
  have plainFlag : (Atom.marked .trashed false).Plain := by
    rintro _ ⟨⟩
  have readFlag := Clause.parse?_atom plainFlag
  have first := means_setConjuncts_pair accepted settled inside rfl read readFlag
  have second := means_setConjuncts_pair settled accepted rfl inside readFlag read
  obtain ⟨behind, within, behindHolds⟩ := first.within plainFolder
  obtain ⟨before, withinBefore, beforeHolds⟩ := second.within plainFolder
  refine ⟨behind, before, within, withinBefore, fun truth holds admitted => ?_⟩
  have constrains : (empty.setConjuncts [expression, outsideTrash]).constrainsTrashed = true :=
    (constrainsTrashed_node_iff _).mpr (.inr ⟨outsideTrash, by simp, rfl⟩)
  have constrainsBefore :
      (empty.setConjuncts [outsideTrash, expression]).constrainsTrashed = true :=
    (constrainsTrashed_node_iff _).mpr (.inr ⟨outsideTrash, by simp, rfl⟩)
  have admits (other : Expression) (constrains : other.constrainsTrashed = true) :
      (scope.admitsFolder truth && scope.admitsTrashed other truth) = true := by
    rw [Scope.admitsTrashed, admitted, constrains, Bool.or_true, Bool.true_or]
    rfl
  rw [behindHolds, beforeHolds, admits _ constrains, admits _ constrainsBefore, Bool.and_true,
    Bool.and_true]
  exact Query.holds_join_or_of_splits splits rfl holds

/-- Without the trash no file of the trash satisfies a restricted expression that does not ask for
it, provided that a flag which replaces the restriction is guarded. A loose raw text beside the flag
lets files of the trash through. -/
theorem compileWithin_excludes_trash (excludes : scope.includeTrashed = false)
    (raw : expression.RawReadable)
    (noTrash : expression.AsksForNoTrash) :
    ((expression.constrainsTrashed = true → ∃ value, expression.Guarded .trashed value) →
      ∀ query, MeansWithin scope expression query →
        ∀ truth, truth (.marked .trashed true) = true → truth (.marked .trashed false) = false →
          query.holds truth = false) ∧
    ((∀ folder ∈ scope.folder, '\\' ∉ folder.toList) →
      (expression.violation? = none → (∀ atom ∈ expression.atoms, atom.Plain) →
        ∃ query, MeansWithin scope expression query) ∧
      (expression.Loose → ∀ query, expression.Means query →
        (empty.setConjuncts [expression, outsideTrash]).AsksForNoTrash ∧
        (empty.setConjuncts [outsideTrash, expression]).AsksForNoTrash ∧
        ∃ behind before,
          MeansWithin scope (empty.setConjuncts [expression, outsideTrash]) behind ∧
          MeansWithin scope (empty.setConjuncts [outsideTrash, expression]) before ∧
          ∀ truth, query.holds truth → scope.admitsFolder truth →
            behind.holds truth = true ∨ before.holds truth = true)) := by
  refine ⟨fun guarded query means truth _ notOutside => ?_, fun plainFolder => ⟨?_, ?_⟩⟩
  · obtain ⟨value, reached, needed⟩ := means.exists_value excludes raw guarded
    refine Bool.of_not_eq_true fun holds => ?_
    cases value with
    | true =>
      obtain ⟨parts, reaches, found⟩ := reached rfl
      exact noTrash parts reaches found
    | false => exact Bool.false_ne_true (notOutside.symm.trans (needed truth holds))
  · intro accepted plain
    exact exists_meansWithin excludes raw accepted plain plainFolder
  · intro loose query means
    have each : ∀ child ∈ [expression, outsideTrash], child.AsksForNoTrash := by
      rw [List.forall_mem_cons, List.forall_mem_singleton]
      exact ⟨noTrash, asksForNoTrash_outsideTrash⟩
    have eachBefore : ∀ child ∈ [outsideTrash, expression], child.AsksForNoTrash := by
      rw [List.forall_mem_cons, List.forall_mem_singleton]
      exact ⟨asksForNoTrash_outsideTrash, noTrash⟩
    exact ⟨.setConjuncts each, .setConjuncts eachBefore, loose.escapes raw plainFolder means⟩

/-- This raw text asks for a star or for a shared file. -/
def starredOrShared : String := "starred = true or sharedWithMe = true"

/-- This expression asks for files outside the trash, by a disjunct of a raw text. -/
def starredOrSharedOutside : Expression :=
  outsideTrash.setDisjuncts [.raw starredOrShared]

theorem compileWithin_excludes_trash_starredOrShared :
    (∃ query, MeansWithin .standard starredOrSharedOutside query ∧
      ∀ truth, truth (.marked .trashed true) = true → truth (.marked .trashed false) = false →
        query.holds truth = false) ∧
    ∃ behind before,
      MeansWithin .standard (empty.setConjuncts [.raw starredOrShared, outsideTrash]) behind ∧
      MeansWithin .standard (empty.setConjuncts [outsideTrash, .raw starredOrShared]) before ∧
      ∀ truth, (truth (.marked .starred true) || truth (.marked .sharedWithMe true)) = true →
        behind.holds truth = true ∨ before.holds truth = true := by
  have read : Query.parse? starredOrShared.toList =
      some (.either (.single (.atom (.marked .starred true)))
        (.ofFactor (.atom (.marked .sharedWithMe true)))) :=
    Query.parse?_eq_some_iff.mpr rfl
  have raw : ∀ text ∈ [starredOrShared], Text.isBlank text.toList = false →
      ∃ query, Query.parse? text.toList = some query := by
    rw [List.forall_mem_singleton]
    exact fun _ => ⟨_, read⟩
  have rawAlone : (Expression.raw starredOrShared).RawReadable := raw
  have rawOutside : starredOrSharedOutside.RawReadable := raw
  have excludes : Scope.standard.includeTrashed = false := rfl
  have noFolder : ∀ folder ∈ Scope.standard.folder, '\\' ∉ folder.toList := by
    rintro _ ⟨⟩
  constructor
  · have noTrash : starredOrSharedOutside.AsksForNoTrash := by
      intro reached reaches
      cases reaches with
      | self => decide
      | conjunct member _ => cases member
    have guarded : starredOrSharedOutside.Guarded .trashed false :=
      .own (by decide) fun text present => by cases present
    obtain ⟨safe, others⟩ :=
      compileWithin_excludes_trash excludes rawOutside noTrash
    have atoms : starredOrSharedOutside.atoms = [.marked .trashed false] := by decide
    have plain : ∀ atom ∈ starredOrSharedOutside.atoms, atom.Plain := by
      rw [atoms, List.forall_mem_singleton]
      rintro _ ⟨⟩
    obtain ⟨query, means⟩ := (others noFolder).1 (by decide) plain
    exact ⟨query, means, safe (fun _ => ⟨false, guarded⟩) query means⟩
  · have noTrash : (Expression.raw starredOrShared).AsksForNoTrash := by
      intro reached reaches
      cases reaches
    obtain ⟨_, others⟩ :=
      compileWithin_excludes_trash excludes rawAlone noTrash
    have loose : (Expression.raw starredOrShared).Loose := ⟨_, _, rfl, read, rfl⟩
    obtain ⟨_, _, behind, before, within, withinBefore, escape⟩ :=
      (others noFolder).2 loose _ ⟨_, rfl, read⟩
    exact ⟨behind, before, within, withinBefore, fun truth holds => escape truth holds rfl⟩

end Expression

end FileSearch
