/-
This file reads back what is written for operators, summaries, scopes, configurations and compiled
queries.
-/

import FileSearch.Config
import FileSearch.FieldOperator.Form
import FileSearch.Proofs.Entries
import FileSearch.Proofs.Json.Layout
import FileSearch.Proofs.Json.Record
import FileSearch.Proofs.Summary

namespace FileSearch

open Json Json.Reader

namespace Json

theorem understands_strings {condition : Prop} (values : List String) :
    Understands condition (list text) (.array (values.map .string)) values :=
  understands_list (List.forall₂_map_left_iff.mpr
    (List.forall₂_same.mpr fun value _ => understands_text value))

theorem numerals_strings (values : List String) :
    numerals (.array (values.map .string)) = [] := by
  rw [numerals_array, List.flatMap_map]
  exact List.flatMap_eq_nil_iff.mpr fun value _ => rfl

/-- A value without numerals is read from each of its texts, if it is not nested too deep. -/
theorem readText_value {value : Json} {text : String} (noNumerals : value.numerals = [])
    (shallow : value.depth ≤ greatestDepth) (written : value.WrittenAs text.toList) :
    Reader.value.readText text = .ok value := by
  refine readText_of_understands ((understands_value value _ shallow).mono fun _ => ?_) written
  rw [Bounded, noNumerals]
  exact List.forall_mem_nil _

/-- This is the text that is written for what was read from a text. -/
def rewritten {Value : Type} (read : String → Except Fault Value) (write : Value → Json)
    (text : String) : Except Fault String := do
  return (write (← read text)).compact

/-- What is written can be read back: nothing is lost, different values have different texts, and a
text that has been rewritten once stays as it is. -/
structure Lossless {Value : Type} (read : String → Except Fault Value) (write : Value → Json) :
    Prop where
  readBack : ∀ value, read (write value).compact = .ok value
  distinct : ∀ first second, (write first).compact = (write second).compact → first = second
  idempotent : ∀ text,
    (rewritten read write text >>= rewritten read write) = rewritten read write text

theorem lossless_of_understands {Value : Type} {reader : Reader Value} {write : Value → Json}
    (noNumerals : ∀ value, (write value).numerals = [])
    (understands : ∀ value, Understands True reader (write value) value) :
    Lossless reader.readText write := by
  have readBack : ∀ value, reader.readText (write value).compact = .ok value := fun value =>
    readText_of_understands (understands value) (writtenAs_compact (noNumerals value))
  refine ⟨readBack, fun first second same => ?_, fun text => ?_⟩
  · have both := readBack first
    rw [same, readBack second] at both
    exact (Except.ok.inj both).symm
  · cases found : reader.readText text with
    | error fault =>
      rw [rewritten, found]
      rfl
    | ok value =>
      have once : rewritten reader.readText write text = .ok (write value).compact := by
        rw [rewritten, found]
        rfl
      have twice : rewritten reader.readText write (write value).compact =
          .ok (write value).compact := by
        rw [rewritten, readBack value]
        rfl
      rw [once]
      exact twice

end Json

namespace FieldOperator

/-- A list that is present has a place in the form. -/
theorem places_listMember? (key : String)
    (set : Option (List String) → FieldOperator → FieldOperator)
    (known : form.members.find? (·.key = key) = some (listMember key set))
    (values : Option (List String)) :
    Option.Rel (Places True form) (listMember? key values)
      (values.map fun values => set (some values)) := by
  cases values with
  | none => exact .none
  | some values =>
    refine .some ⟨listMember key set, known, ?_⟩
    exact (understands_optional (by simp) (understands_strings values)).map set

/-- The lists that are absent stay as they are in the empty operator. -/
theorem understands_toJson (operator : FieldOperator) :
    Understands True (record form) operator.toJson operator := by
  obtain ⟨anyOf, allOf, noneOf⟩ := operator
  have places := forall₂_filterMap_id
    (.cons (places_listMember? "any" (fun entry operator => { operator with anyOf := entry })
      rfl anyOf)
    (.cons (places_listMember? "all" (fun entry operator => { operator with allOf := entry })
      rfl allOf)
    (.cons (places_listMember? "none" (fun entry operator => { operator with noneOf := entry })
      rfl noneOf) .nil)))
  have distinct : (([listMember? "any" anyOf, listMember? "all" allOf,
      listMember? "none" noneOf].filterMap id).map Prod.fst).Nodup := by
    cases anyOf <;> cases allOf <;> cases noneOf <;> simp [listMember?]
  have understands := understands_record places distinct
  cases anyOf <;> cases allOf <;> cases noneOf <;> exact understands

theorem numerals_toJson (operator : FieldOperator) : operator.toJson.numerals = [] := by
  have members : ∀ member ∈ [listMember? "any" operator.anyOf, listMember? "all" operator.allOf,
      listMember? "none" operator.noneOf].filterMap id, Json.numerals member.2 = [] := by
    refine forall_mem_filterMap_id fun possible found member present => ?_
    have listed : ∀ key values, member ∈ listMember? key values → Json.numerals member.2 = [] := by
      intro key values present
      obtain ⟨values, _, rfl⟩ := Option.map_eq_some_iff.mp present
      exact numerals_strings values
    simp only [List.mem_cons, List.not_mem_nil, or_false] at found
    obtain rfl | rfl | rfl := found
    · exact listed "any" operator.anyOf present
    · exact listed "all" operator.allOf present
    · exact listed "none" operator.noneOf present
  rw [toJson, numerals_object]
  exact List.flatMap_eq_nil_iff.mpr members

end FieldOperator

theorem Field.key_injective : Function.Injective Field.key := by
  intro first second
  cases first <;> cases second <;> decide

theorem Flag.key_injective : Function.Injective Flag.key := by
  intro first second
  cases first <;> cases second <;> decide

theorem Field.key_ne_key (field : Field) (flag : Flag) : field.key ≠ flag.key := by
  cases field <;> cases flag <;> decide

namespace Summary

/-- These are the members of the written form of a summary. -/
def members (summary : Summary) : List (String × Json) :=
  Field.all.filterMap summary.fieldMember? ++ Flag.all.filterMap summary.flagMember?

theorem fieldMember?_eq_some_iff {summary : Summary} {field : Field} {member : String × Json} :
    summary.fieldMember? field = some member ↔ summary.values.get field ≠ [] ∧
      member = (field.key, .array ((summary.values.get field).map .string)) := by
  rw [fieldMember?]
  cases summary.values.get field with
  | nil => simp
  | cons value values => simp [eq_comm]

/-- A change restores a member when it takes the entry over from the summary that the member belongs
to. -/
inductive Restores (summary : Summary) : String × Json → (Summary → Summary) → Prop where
  | field {field : Field} {member : String × Json}
      (here : summary.fieldMember? field = some member) :
      Restores summary member fun other =>
        { other with values := other.values.set field (summary.values.get field) }
  | flag {flag : Flag} {member : String × Json} (here : summary.flagMember? flag = some member) :
      Restores summary member fun other =>
        { other with flags := other.flags.set flag (summary.flags.get flag) }

theorem exists_restores {summary : Summary} {member : String × Json}
    (found : member ∈ summary.members) : ∃ change, Restores summary member change := by
  obtain fields | flags := List.mem_append.mp found
  · obtain ⟨field, _, here⟩ := List.mem_filterMap.mp fields
    exact ⟨_, .field here⟩
  · obtain ⟨flag, _, here⟩ := List.mem_filterMap.mp flags
    exact ⟨_, .flag here⟩

theorem places_of_restores {summary : Summary} {member : String × Json}
    {change : Summary → Summary} (restores : Restores summary member change) :
    Places True form member change := by
  cases restores with
  | @field field _ here =>
    obtain ⟨_, rfl⟩ := fieldMember?_eq_some_iff.mp here
    have known : form.members.find? (·.key = field.key) = some (fieldMember field) := by
      cases field <;> rfl
    exact ⟨fieldMember field, known, (understands_strings _).map _⟩
  | @flag flag _ here =>
    obtain ⟨value, set, rfl⟩ := Option.map_eq_some_iff.mp here
    have known : form.members.find? (·.key = flag.key) = some (flagMember flag) := by
      cases flag <;> rfl
    refine ⟨flagMember flag, known, ?_⟩
    rw [set]
    exact (understands_optional (by simp) (understands_truth value)).map _

theorem nodup_members (summary : Summary) : (summary.members.map Prod.fst).Nodup := by
  have fields : List.Sublist ((Field.all.filterMap summary.fieldMember?).map Prod.fst)
      (Field.all.map Field.key) := by
    refine map_filterMap_sublist (fun field member found => ?_) Field.all
    rw [(fieldMember?_eq_some_iff.mp found).2]
  have flags : List.Sublist ((Flag.all.filterMap summary.flagMember?).map Prod.fst)
      (Flag.all.map Flag.key) := by
    refine map_filterMap_sublist (fun flag member found => ?_) Flag.all
    obtain ⟨value, _, rfl⟩ := Option.map_eq_some_iff.mp found
    rfl
  rw [members, List.map_append]
  exact (fields.append flags).nodup (by decide)

/-- What a change restores is kept by every other one. -/
theorem keeps_of_restores {summary : Summary} {member : String × Json}
    {change : Summary → Summary} (restores : Restores summary member change) (other : Summary) :
    (∀ field, other.values.get field = summary.values.get field →
      (change other).values.get field = summary.values.get field) ∧
    ∀ flag, other.flags.get flag = summary.flags.get flag →
      (change other).flags.get flag = summary.flags.get flag := by
  cases restores with
  | @field written _ here =>
    refine ⟨fun field same => ?_, fun flag same => same⟩
    rw [FieldMap.get_set]
    split_ifs with equal
    · rw [equal]
    · exact same
  | @flag written _ here =>
    refine ⟨fun field same => same, fun flag same => ?_⟩
    rw [FlagMap.get_set]
    split_ifs with equal
    · rw [equal]
    · exact same

/-- The key of a member tells what its change restores. -/
theorem makes_of_restores {summary : Summary} {member : String × Json}
    {change : Summary → Summary} (restores : Restores summary member change) (other : Summary) :
    (∀ field, member.1 = Field.key field →
      (change other).values.get field = summary.values.get field) ∧
    ∀ flag, member.1 = Flag.key flag →
      (change other).flags.get flag = summary.flags.get flag := by
  cases restores with
  | @field written _ here =>
    obtain ⟨_, rfl⟩ := fieldMember?_eq_some_iff.mp here
    refine ⟨fun field same => ?_, fun flag same => absurd same (written.key_ne_key flag)⟩
    have equal : written = field := Field.key_injective same
    rw [FieldMap.get_set, if_pos equal, equal]
  | @flag written _ here =>
    obtain ⟨value, _, rfl⟩ := Option.map_eq_some_iff.mp here
    refine ⟨fun field same => absurd same.symm (field.key_ne_key written), fun flag same => ?_⟩
    have equal : written = flag := Flag.key_injective same
    rw [FlagMap.get_set, if_pos equal, equal]

/-- An entry without a member is the one of the empty summary, and every other one is restored. -/
theorem foldl_restores {summary : Summary} {members : List (String × Json)}
    {change : String × Json → Summary → Summary} (same : members.Perm summary.members)
    (restores : ∀ member ∈ members, Restores summary member (change member)) :
    (members.map change).foldl (fun other change => change other) form.empty = summary := by
  have values : ∀ field, ((members.map change).foldl (fun other change => change other)
      form.empty).values.get field = summary.values.get field := by
    intro field
    refine foldl_of_keeps (List.forall_mem_map.mpr fun member found other =>
      (keeps_of_restores (restores member found) other).1 field) ?_
    by_cases none : summary.values.get field = []
    · exact .inl (none.symm ▸ FieldMap.get_replicate [] field)
    · have here := fieldMember?_eq_some_iff.mpr ⟨none, rfl⟩
      have found := same.mem_iff.mpr
        (List.mem_append_left _ (List.mem_filterMap.mpr ⟨field, field.mem_all, here⟩))
      exact .inr ⟨_, List.mem_map_of_mem found,
        fun other => (makes_of_restores (restores _ found) other).1 field rfl⟩
  have flags : ∀ flag, ((members.map change).foldl (fun other change => change other)
      form.empty).flags.get flag = summary.flags.get flag := by
    intro flag
    refine foldl_of_keeps (List.forall_mem_map.mpr fun member found other =>
      (keeps_of_restores (restores member found) other).2 flag) ?_
    cases set : summary.flags.get flag with
    | none => exact .inl (FlagMap.get_replicate none flag)
    | some value =>
      have here : summary.flagMember? flag = some (flag.key, .boolean value) := by
        rw [flagMember?, set, Option.map_some]
      have found := same.mem_iff.mpr
        (List.mem_append_right _ (List.mem_filterMap.mpr ⟨flag, flag.mem_all, here⟩))
      exact .inr ⟨_, List.mem_map_of_mem found,
        fun other => set ▸ (makes_of_restores (restores _ found) other).2 flag rfl⟩
  exact ext_get values flags

/-- A summary is read from its members in any order. -/
theorem understands_members {summary : Summary} {members : List (String × Json)}
    (same : members.Perm summary.members) :
    Understands True (record form) (.object members) summary := by
  have each : ∀ member ∈ members, ∃ change, Restores summary member change :=
    fun member found => exists_restores (same.mem_iff.mp found)
  have : Nonempty (Summary → Summary) := ⟨id⟩
  choose! change restores using each
  have places : List.Forall₂ (Places True form) members (members.map change) :=
    List.forall₂_map_right_iff.mpr
      (List.forall₂_same.mpr fun member found => places_of_restores (restores member found))
  have distinct : (members.map Prod.fst).Nodup :=
    (same.map Prod.fst).nodup_iff.mpr (nodup_members summary)
  have understands := understands_record places distinct
  rw [foldl_restores same restores] at understands
  exact understands

theorem understands_toJson (summary : Summary) :
    Understands True (record form) summary.toJson summary :=
  understands_members (.refl summary.members)

theorem numerals_toJson (summary : Summary) : summary.toJson.numerals = [] := by
  rw [toJson, numerals_object]
  refine List.flatMap_eq_nil_iff.mpr fun member found => ?_
  obtain fields | flags := List.mem_append.mp found
  · obtain ⟨field, _, here⟩ := List.mem_filterMap.mp fields
    obtain ⟨_, rfl⟩ := fieldMember?_eq_some_iff.mp here
    exact numerals_strings _
  · obtain ⟨flag, _, here⟩ := List.mem_filterMap.mp flags
    obtain ⟨value, _, rfl⟩ := Option.map_eq_some_iff.mp here
    rfl

end Summary

namespace Scope

theorem understands_toJson (scope : Scope) :
    Understands True (record form) scope.toJson scope := by
  obtain ⟨folder, includeTrashed⟩ := scope
  have folderUnderstood : Understands True (optional text)
      ((folder.map Json.string).getD .null) folder := by
    cases folder with
    | none => exact understands_optional_null text
    | some folder => exact understands_optional (by simp) (understands_text folder)
  have places : List.Forall₂ (Places True form)
      [("folderId", (folder.map Json.string).getD .null),
        ("includeTrashed", .boolean includeTrashed)]
      [fun scope => { scope with folder := folder },
        fun scope => { scope with includeTrashed := includeTrashed }] :=
    .cons ⟨_, rfl, folderUnderstood.map _⟩
      (.cons ⟨_, rfl, (understands_truth includeTrashed).map _⟩ .nil)
  have distinct : ["folderId", "includeTrashed"].Nodup := by decide
  exact understands_record places distinct

theorem numerals_toJson (scope : Scope) : scope.toJson.numerals = [] := by
  obtain ⟨_ | folder, includeTrashed⟩ := scope
  · rfl
  · rfl

end Scope

namespace Config

theorem understands_toJson (config : Config) :
    Understands True (record form) config.toJson config := by
  obtain ⟨scope, logLevel⟩ := config
  have places : List.Forall₂ (Places True form)
      [("scope", scope.toJson), ("logLevel", .string logLevel)]
      [fun config => { config with scope := scope },
        fun config => { config with logLevel := logLevel }] :=
    .cons ⟨_, rfl, scope.understands_toJson.map _⟩
      (.cons ⟨_, rfl, (understands_text logLevel).map _⟩ .nil)
  have distinct : ["scope", "logLevel"].Nodup := by decide
  exact understands_record places distinct

theorem numerals_toJson (config : Config) : config.toJson.numerals = [] := by
  rw [toJson, numerals_object]
  simp only [List.flatMap_cons, config.scope.numerals_toJson, List.nil_append]
  rfl

end Config

namespace Summary

/-- The members of a summary hold lists of strings and truth values. -/
theorem depth_toJson_le (summary : Summary) : summary.toJson.depth ≤ 2 := by
  refine depth_le_succ (List.forall_mem_map.mpr fun member found => ?_)
  obtain fields | flags := List.mem_append.mp found
  · obtain ⟨field, _, here⟩ := List.mem_filterMap.mp fields
    obtain ⟨_, rfl⟩ := fieldMember?_eq_some_iff.mp here
    exact depth_le_succ (List.forall_mem_map.mpr fun value _ => Nat.le_refl 0)
  · obtain ⟨flag, _, here⟩ := List.mem_filterMap.mp flags
    obtain ⟨value, _, rfl⟩ := Option.map_eq_some_iff.mp here
    exact Nat.zero_le 1

end Summary

namespace Compiled

theorem depth_toJson_le (compiled : Compiled) : compiled.toJson.depth ≤ greatestDepth := by
  have shallow : compiled.toJson.depth ≤ 3 := by
    refine depth_le_succ (List.forall_mem_map.mpr fun member found => ?_)
    simp only [List.mem_cons, List.not_mem_nil, or_false] at found
    obtain rfl | rfl := found
    · exact Nat.zero_le 2
    · exact compiled.filters.depth_toJson_le
  exact shallow.trans (by decide)

theorem numerals_toJson (compiled : Compiled) : compiled.toJson.numerals = [] := by
  rw [toJson, numerals_object]
  simp only [List.flatMap_cons, compiled.filters.numerals_toJson]
  rfl

end Compiled

/-- Operators, summaries, scopes and configurations are read back from what is written for them. A
compiled query is read back as a value from both of its layouts, and its filters are read from every
text of that member, in whatever order the members of the filters stand. -/
theorem written_forms_read_back :
    Lossless FieldOperator.ofText? FieldOperator.toJson ∧
    Lossless Summary.ofText? Summary.toJson ∧
    Lossless Scope.ofText? Scope.toJson ∧
    Lossless Config.ofText? Config.toJson ∧
    ∀ compiled : Compiled, ∃ filters,
      compiled.toJson =
        .object [("queryString", .string compiled.queryString), ("filters", .object filters)] ∧
      value.readText compiled.toJson.compact = .ok compiled.toJson ∧
      value.readText compiled.toJson.pretty = .ok compiled.toJson ∧
      ∀ (members : List (String × Json)) (text : String), members.Perm filters →
        (Json.object members).WrittenAs text.toList →
        Summary.ofText? text = .ok compiled.filters := by
  refine ⟨lossless_of_understands FieldOperator.numerals_toJson FieldOperator.understands_toJson,
    lossless_of_understands Summary.numerals_toJson Summary.understands_toJson,
    lossless_of_understands Scope.numerals_toJson Scope.understands_toJson,
    lossless_of_understands Config.numerals_toJson Config.understands_toJson,
    fun compiled => ⟨compiled.filters.members, rfl, ?_, ?_, ?_⟩⟩
  · exact readText_value compiled.numerals_toJson compiled.depth_toJson_le
      (writtenAs_compact compiled.numerals_toJson)
  · exact readText_value compiled.numerals_toJson compiled.depth_toJson_le
      (writtenAs_pretty compiled.numerals_toJson)
  · exact fun members text same written =>
      readText_of_understands (Summary.understands_members same) written

/-- The filters are also read from indented lines on which the flag stands in front of the name. -/
theorem written_forms_read_back_flagFirst :
    Summary.ofText?
        (Json.object [("starred", .boolean true),
          ("name", .array [.string "the \"plan\"\n"])]).pretty =
      .ok ⟨⟨["the \"plan\"\n"], [], [], [], []⟩, ⟨some true, none, none⟩⟩ := by
  obtain ⟨_, _, _, _, each⟩ := written_forms_read_back
  obtain ⟨filters, shape, _, _, reads⟩ := each
    ⟨"starred = true", ⟨⟨["the \"plan\"\n"], [], [], [], []⟩, ⟨some true, none, none⟩⟩, none⟩
  have members : [("name", Json.array [.string "the \"plan\"\n"]), ("starred", .boolean true)] =
      filters := by
    injection shape with both
    injection both with _ last
    injection last with member
    injection member with _ object
    injection object
  exact reads _ _ (members ▸ .swap _ _ []) (writtenAs_pretty rfl)

end FileSearch
