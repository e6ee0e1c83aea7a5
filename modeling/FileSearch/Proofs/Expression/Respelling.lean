/-
This file compares values that spell an expression in different ways: as an object or as a list,
with members in any order, and with members that are missing or written as the value for nothing.
-/

import FileSearch.Proofs.Expression.Writing

namespace FileSearch

open Json

namespace Json

variable {Entry : Type} {Writes : Json → Entry → Prop}

/-- Two values are the same, or records that have the same value under each of the keys. -/
inductive RecordRespelled (keys : List String) : Json → Json → Prop where
  | same (value : Json) : RecordRespelled keys value value
  | record {first second : Json} {entries : String → Json} (recordFirst : Record keys first entries)
      (recordSecond : Record keys second entries) : RecordRespelled keys first second

/-- Two values are the same, or lists whose values are respelled one by one. -/
inductive ListRespelled (Respelled : Json → Json → Prop) : Json → Json → Prop where
  | same (value : Json) : ListRespelled Respelled value value
  | items {first second : List Json} (each : List.Forall₂ Respelled first second) :
      ListRespelled Respelled (.array first) (.array second)

/-- Two values write the same entries, and both are the value for nothing or neither is. -/
structure Agree (Writes : Json → Entry → Prop) (first second : Json) : Prop where
  null : first = .null ↔ second = .null
  writes : ∀ entry, Writes first entry ↔ Writes second entry

theorem Agree.refl (value : Json) : Agree Writes value value :=
  ⟨.rfl, fun _ => .rfl⟩

theorem Agree.symm {first second : Json} (agree : Agree Writes first second) :
    Agree Writes second first :=
  ⟨agree.null.symm, fun entry => (agree.writes entry).symm⟩

theorem Agree.omittable {first second : Json} (agree : Agree Writes first second)
    (entry : Option Entry) : Omittable Writes first entry ↔ Omittable Writes second entry := by
  have implies : ∀ {first second : Json}, Agree Writes first second →
      Omittable Writes first entry → Omittable Writes second entry := by
    intro first second agree writes
    cases writes with
    | absent =>
      rw [agree.null.mp rfl]
      exact .absent
    | present notNull writes =>
      exact .present (mt agree.null.mpr notNull) ((agree.writes _).mp writes)
  exact ⟨implies agree, implies agree.symm⟩

/-- What a record writes depends only on the values under its keys. -/
theorem RecordRespelled.agree {keys : List String} {first second : Json}
    {Parts : (String → Json) → Entry → Prop}
    (writes : ∀ value entry, Writes value entry ↔
      ∃ entries, Record keys value entries ∧ Parts entries entry)
    (respects : ∀ {entries others : String → Json} {entry : Entry},
      (∀ key ∈ keys, entries key = others key) → Parts entries entry → Parts others entry)
    (respelled : RecordRespelled keys first second) : Agree Writes first second := by
  have implies : ∀ {first second : Json} {entries : String → Json} {entry : Entry},
      Record keys first entries → Record keys second entries → Writes first entry →
      Writes second entry := by
    intro first second entries entry recordFirst recordSecond writesFirst
    obtain ⟨others, record, parts⟩ := (writes first entry).mp writesFirst
    exact (writes second entry).mpr
      ⟨entries, recordSecond, respects (record.unique recordFirst) parts⟩
  cases respelled with
  | same => exact .refl first
  | record recordFirst recordSecond =>
    exact ⟨iff_of_false recordFirst.ne_null recordSecond.ne_null, fun entry =>
      ⟨implies recordFirst recordSecond, implies recordSecond recordFirst⟩⟩

end Json

theorem FieldOperator.agree_of_respelled {first second : Json}
    (respelled : RecordRespelled ["any", "all", "none"] first second) :
    Agree FieldOperator.Writes first second := by
  refine respelled.agree (fun _ _ => Iff.rfl) ?_
  rintro entries others operator same ⟨writesAny, writesAll, writesNone⟩
  refine ⟨same "any" (by simp) ▸ writesAny, same "all" (by simp) ▸ writesAll,
    same "none" (by simp) ▸ writesNone⟩

theorem FieldValue.agree_of_respelled {first second : Json}
    (respelled : RecordRespelled ["any", "all", "none"] first second) :
    Agree FieldValue.Writes first second := by
  have operators := FieldOperator.agree_of_respelled respelled
  cases respelled with
  | same => exact .refl first
  | record recordFirst recordSecond =>
    refine ⟨operators.null, fun tested => ?_⟩
    cases tested with
    | plain text =>
      refine iff_of_false ?_ ?_
      · rintro rfl
        cases recordFirst
      · rintro rfl
        cases recordSecond
    | operator other => exact operators.writes other

theorem DateRange.agree_of_respelled {first second : Json}
    (respelled : RecordRespelled ["gte", "lt"] first second) :
    Agree DateRange.Writes first second := by
  refine respelled.agree (fun _ _ => Iff.rfl) ?_
  rintro entries others range same ⟨writesFirst, writesLast⟩
  exact ⟨same "gte" (by simp) ▸ writesFirst, same "lt" (by simp) ▸ writesLast⟩

namespace Expression

/-- A node is respelled when it is a record again, with values that are respelled themselves. -/
inductive Respelled : Json → Json → Prop where
  | same (value : Json) : Respelled value value
  | node {first second : Json} {entries others : String → Json}
      (recordFirst : Record (Key.all.map Key.name) first entries)
      (recordSecond : Record (Key.all.map Key.name) second others)
      (conjuncts : ListRespelled Respelled (entries Key.conjuncts.name)
        (others Key.conjuncts.name))
      (disjuncts : ListRespelled Respelled (entries Key.disjuncts.name)
        (others Key.disjuncts.name))
      (negation : Respelled (entries Key.negation.name) (others Key.negation.name))
      (fields : ∀ field, RecordRespelled ["any", "all", "none"]
        (entries (Key.field field).name) (others (Key.field field).name))
      (flags : ∀ flag, entries (Key.flag flag).name = others (Key.flag flag).name)
      (modified : RecordRespelled ["gte", "lt"] (entries Key.modified.name)
        (others Key.modified.name))
      (rawQuery : entries Key.rawQuery.name = others Key.rawQuery.name) :
      Respelled first second

theorem writes_node_iff_of_record {value : Json} {entries : String → Json}
    (record : Record (Key.all.map Key.name) value entries) {node : Node Expression} :
    Writes value (.node node) ↔
      ∀ key : Key, key.Writes (entries key.name) (node.entry key) := by
  rw [writes_node_iff]
  constructor
  · rintro ⟨others, recordOthers, each⟩ key
    rw [record.unique recordOthers key.name (List.mem_map_of_mem key.mem_all)]
    exact each key
  · exact fun each => ⟨entries, record, each⟩

/-- Lists that are respelled item by item write the same expressions. -/
theorem forall₂_writes_iff {first second : List Json}
    (each : List.Forall₂ Respelled first second)
    (agree : ∀ value ∈ first, ∀ other, Respelled value other → Agree Writes value other) :
    ∀ {expressions : List Expression},
      List.Forall₂ Writes first expressions ↔ List.Forall₂ Writes second expressions := by
  induction each with
  | nil => exact .rfl
  | cons respelled _ inductionHypothesis =>
    obtain ⟨agreeFirst, agree⟩ := List.forall_mem_cons.mp agree
    intro expressions
    simp only [List.forall₂_cons_left_iff, (agreeFirst _ respelled).writes,
      inductionHypothesis agree]

/-- Values that are respelled write the same expression and the same list of expressions. -/
structure Interchangeable (value : Json) : Prop where
  single : ∀ other, Respelled value other → Agree Writes value other
  group : ∀ other, ListRespelled Respelled value other → Agree (Listed Writes) value other

theorem interchangeable_null : Interchangeable .null := by
  refine ⟨fun other respelled => ?_, fun other respelled => ?_⟩
  · cases respelled with
    | same => exact .refl _
    | node record => cases record
  · cases respelled with
    | same => exact .refl _

theorem agree_node {first second : Json} {entries others : String → Json}
    (recordFirst : Record (Key.all.map Key.name) first entries)
    (recordSecond : Record (Key.all.map Key.name) second others)
    (each : ∀ (key : Key) (entry : key.Entry),
      key.Writes (entries key.name) entry ↔ key.Writes (others key.name) entry) :
    Agree Writes first second := by
  refine ⟨iff_of_false recordFirst.ne_null recordSecond.ne_null, fun expression => ?_⟩
  cases expression with
  | raw text =>
    refine iff_of_false (fun writes => ?_) fun writes => ?_
    · cases writes
      cases recordFirst
    · cases writes
      cases recordSecond
  | node node =>
    rw [writes_node_iff_of_record recordFirst, writes_node_iff_of_record recordSecond]
    exact forall_congr' fun key => each key (node.entry key)

theorem interchangeable (value : Json) : Interchangeable value := by
  induction value using Json.induct with
  | step value inductionHypothesis =>
    refine ⟨fun other respelled => ?_, fun other respelled => ?_⟩
    · cases respelled with
      | same => exact .refl value
      | @node _ _ entries others recordFirst recordSecond conjuncts disjuncts negation fields flags
          modified rawQuery =>
        have inside : ∀ key : Key, Interchangeable (entries key.name) := fun key => by
          obtain child | null := recordFirst.mem_children_or_null (List.mem_map_of_mem key.mem_all)
          · exact inductionHypothesis _ child
          · rw [null]
            exact interchangeable_null
        refine agree_node recordFirst recordSecond fun key => ?_
        cases key with
        | conjuncts => exact ((inside .conjuncts).group _ conjuncts).omittable
        | disjuncts => exact ((inside .disjuncts).group _ disjuncts).omittable
        | negation => exact ((inside .negation).single _ negation).omittable
        | field field => exact (FieldValue.agree_of_respelled (fields field)).omittable
        | flag flag =>
          rw [flags flag]
          exact fun _ => .rfl
        | modified => exact (DateRange.agree_of_respelled modified).omittable
        | rawQuery =>
          rw [rawQuery]
          exact fun _ => .rfl
    · cases respelled with
      | same => exact .refl value
      | items each =>
        refine ⟨iff_of_false nofun nofun, fun expressions => ?_⟩
        rw [listed_array_iff, listed_array_iff]
        exact forall₂_writes_iff each fun child member => (inductionHypothesis child member).single

end Expression

end FileSearch
