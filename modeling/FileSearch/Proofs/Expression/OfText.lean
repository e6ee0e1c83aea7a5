/-
This file shows which texts are read as an expression: those of a value that writes it.
-/

import FileSearch.Expression.OfText
import FileSearch.Proofs.Expression.Respelling
import FileSearch.Proofs.Json.Layout
import FileSearch.Proofs.Json.Value

namespace FileSearch

open Json Json.Reader

namespace Json

variable {Entry : Type} {Writes : Json → Entry → Prop}

/-- A list and an object have the numerals of the values inside. -/
theorem numerals_eq_nil_of_children {value : Json} (noNumeral : ∀ numeral, value ≠ .number numeral)
    (inside : ∀ child ∈ value.children, child.numerals = []) : value.numerals = [] := by
  cases value with
  | array items =>
    rw [numerals_array]
    exact List.flatMap_eq_nil_iff.mpr inside
  | object members =>
    rw [numerals_object]
    exact List.flatMap_eq_nil_iff.mpr fun member found =>
      inside member.2 (List.mem_map_of_mem found)
  | number numeral => exact absurd rfl (noNumeral numeral)
  | null => rfl
  | boolean truth => rfl
  | string text => rfl

theorem Omittable.numerals {value : Json} {entry : Option Entry}
    (writes : Omittable Writes value entry)
    (noNumerals : ∀ entry, Writes value entry → value.numerals = []) : value.numerals = [] := by
  cases writes with
  | absent => rfl
  | present _ writes => exact noNumerals _ writes

theorem Listed.numerals {value : Json} {entries : List Entry}
    (writes : Listed Writes value entries)
    (noNumerals : ∀ child ∈ value.children, ∀ entry, Writes child entry → child.numerals = []) :
    value.numerals = [] := by
  cases writes with
  | items each =>
    refine numerals_eq_nil_of_children (fun _ => nofun) fun child member => ?_
    obtain ⟨index, bound, rfl⟩ := List.getElem_of_mem member
    exact noNumerals _ member _ (each.get bound (each.length_eq ▸ bound))

theorem Record.numerals {keys : List String} {value : Json} {entries : String → Json}
    (record : Record keys value entries)
    (noNumerals : ∀ key ∈ keys, entries key ∈ value.children → (entries key).numerals = []) :
    value.numerals = [] := by
  refine numerals_eq_nil_of_children (fun numeral same => ?_) fun child member => ?_
  · subst same
    cases record
  · obtain ⟨key, known, rfl⟩ := record.exists_key member
    exact noNumerals key known member

end Json

theorem Json.numerals_of_strings {value : Json} {texts : List String}
    (writes : Listed IsString value texts) : value.numerals = [] := by
  refine writes.numerals ?_
  rintro _ _ text rfl
  rfl

theorem FieldOperator.numerals_of_writes {value : Json} {operator : FieldOperator}
    (writes : FieldOperator.Writes value operator) : value.numerals = [] := by
  obtain ⟨entries, record, writesAny, writesAll, writesNone⟩ := writes
  refine record.numerals fun key known _ => ?_
  simp only [List.mem_cons, List.not_mem_nil, or_false] at known
  obtain rfl | rfl | rfl := known
  · exact writesAny.numerals fun _ => numerals_of_strings
  · exact writesAll.numerals fun _ => numerals_of_strings
  · exact writesNone.numerals fun _ => numerals_of_strings

theorem FieldValue.numerals_of_writes {value : Json} {tested : FieldValue}
    (writes : FieldValue.Writes value tested) : value.numerals = [] := by
  cases tested with
  | plain text =>
    cases writes
    rfl
  | operator other => exact FieldOperator.numerals_of_writes writes

theorem Json.numerals_of_string {value : Json} {text : String} (writes : IsString value text) :
    value.numerals = [] := by
  cases writes
  rfl

theorem DateRange.numerals_of_writes {value : Json} {range : DateRange}
    (writes : DateRange.Writes value range) : value.numerals = [] := by
  obtain ⟨entries, record, writesFirst, writesLast⟩ := writes
  refine record.numerals fun key known _ => ?_
  simp only [List.mem_cons, List.not_mem_nil, or_false] at known
  obtain rfl | rfl := known
  · exact writesFirst.numerals fun _ => numerals_of_string
  · exact writesLast.numerals fun _ => numerals_of_string

namespace Expression

/-- No numeral is part of an expression or of a list of them. -/
theorem numerals_of_writes (value : Json) :
    (∀ expression, Writes value expression → value.numerals = []) ∧
      ∀ expressions, Listed Writes value expressions → value.numerals = [] := by
  induction value using Json.induct with
  | step value inductionHypothesis =>
    refine ⟨fun expression writes => ?_, fun expressions writes =>
      writes.numerals fun child member => (inductionHypothesis child member).1⟩
    cases expression with
    | raw text =>
      cases writes
      rfl
    | node node =>
      obtain ⟨entries, record, each⟩ := writes_node_iff.mp writes
      refine record.numerals fun name known member => ?_
      obtain ⟨single, group⟩ := inductionHypothesis _ member
      obtain ⟨key, _, rfl⟩ := List.mem_map.mp known
      have writesKey := each key
      cases key with
      | conjuncts => exact Omittable.numerals writesKey group
      | disjuncts => exact Omittable.numerals writesKey group
      | negation => exact Omittable.numerals writesKey single
      | field field => exact Omittable.numerals writesKey fun _ => FieldValue.numerals_of_writes
      | flag flag =>
        refine Omittable.numerals writesKey fun truth (same : _ = Json.boolean truth) => ?_
        rw [same]
        rfl
      | modified => exact Omittable.numerals writesKey fun _ => DateRange.numerals_of_writes
      | rawQuery => exact Omittable.numerals writesKey fun _ => numerals_of_string

/-- A text of a value is read as what the value writes, and as nothing else. -/
theorem ofText?_eq_ok_iff {value : Json} {text : String}
    (shallow : value.depth ≤ greatestDepth) (written : value.WrittenAs text.toList)
    (expression : Expression) : ofText? text = .ok expression ↔ Writes value expression := by
  obtain ⟨behind, blank, takes⟩ := takes_writtenAs (understands_value value _ shallow) written
  have finished : Takes True finish behind () [] := takes_finish blank
  obtain ⟨position, ran⟩ | ⟨unbounded, fault, ran⟩ := takes Position.start
  · have run : Reader.value.run (Cursor.ofText text.toList) = .ok (value, ⟨behind, position⟩) := ran
    obtain ⟨last, ranFinish⟩ | ⟨never, _⟩ := finished position
    · simp only [ofText?, run, ranFinish, ← ofJson?_eq_some_iff]
      cases ofJson? value with
      | none => simp
      | some other => simp
    · exact absurd trivial never
  · have run : Reader.value.run (Cursor.ofText text.toList) = .error fault := ran
    rw [ofText?, run]
    refine ⟨nofun, fun writes => absurd ?_ unbounded⟩
    rw [Bounded, (numerals_of_writes value).1 expression writes]
    exact List.forall_mem_nil _

/-- A text of a value is read as an expression exactly when the value writes the expression. So it
does not matter how the value is spelled: in which order the members stand, whether a member that is
left out is missing or written as the value for nothing, and whether a record is an object or a
list. -/
theorem reads_what_is_written {value : Json} {text : String}
    (shallow : value.depth ≤ greatestDepth) (written : value.WrittenAs text.toList) :
    (∀ expression, ofText? text = .ok expression ↔ Writes value expression) ∧
      ∀ (other : Json) (respelling : String), Respelled value other →
        other.depth ≤ greatestDepth → other.WrittenAs respelling.toList →
        ∀ expression, ofText? text = .ok expression ↔ ofText? respelling = .ok expression := by
  refine ⟨ofText?_eq_ok_iff shallow written, ?_⟩
  intro other respelling respelled shallowOther writtenOther expression
  rw [ofText?_eq_ok_iff shallow written, ofText?_eq_ok_iff shallowOther writtenOther]
  exact ((interchangeable value).single other respelled).writes expression

/-- A name is found in an object behind a flag that is left out, and in a list behind three values
for nothing. -/
theorem reads_what_is_written_nameInList :
    let value := Json.object [("starred", .null), ("name", .string "plan")]
    let other := Json.array [.null, .null, .null, .string "plan"]
    let expression := Expression.empty.setField .name (.plain "plan")
    ofText? value.compact = .ok expression ∧ ofText? other.pretty = .ok expression := by
  intro value other expression
  let entries := fun key =>
    ([("starred", Json.null), ("name", .string "plan")].lookup key).getD .null
  have recordFirst : Record (Key.all.map Key.name) value entries :=
    record_lookup (by decide) (by decide)
  have recordSecond : Record (Key.all.map Key.name) other entries := .array (by decide) rfl
  have respelled : Respelled value other :=
    .node recordFirst recordSecond (.same _) (.same _) (.same _) (fun _ => .same _) (fun _ => rfl)
      (.same _) rfl
  obtain ⟨reads, agrees⟩ := @reads_what_is_written value _ (by decide)
    (writtenAs_compact rfl)
  have read : ofText? value.compact = .ok expression :=
    (reads expression).mpr ((ofJson?_eq_some_iff value expression).mp rfl)
  exact ⟨read, (agrees other _ respelled (by decide) (writtenAs_pretty rfl) expression).mp read⟩

end Expression

end FileSearch
