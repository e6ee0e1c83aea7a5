/-
This file shows what a summary holds after any sequence of records and reloads, and that it is empty
exactly when its written form is.
-/

import FileSearch.Proofs.Summary
import FileSearch.Proofs.WrittenForm

namespace FileSearch.Summary

theorem isEmpty_iff {summary : Summary} : summary.isEmpty = true ↔ summary = empty := by
  constructor
  · intro isEmpty
    rw [Summary.isEmpty, Bool.and_eq_true, List.all_eq_true, List.all_eq_true] at isEmpty
    refine ext_get (fun field => ?_) fun flag => ?_
    · rw [empty, FieldMap.get_replicate]
      exact List.isEmpty_iff.mp (isEmpty.1 field field.mem_all)
    · rw [empty, FlagMap.get_replicate]
      exact Option.isNone_iff_eq_none.mp (isEmpty.2 flag flag.mem_all)
  · rintro rfl
    rfl

/-- Different summaries have different texts, so that no other one has the text of the empty
summary. -/
theorem isEmpty_iff_compact {summary : Summary} :
    summary.isEmpty = true ↔ summary.toJson.compact = "\x7b\x7d" := by
  have written : empty.toJson.compact = "\x7b\x7d" := rfl
  rw [isEmpty_iff]
  constructor
  · rintro rfl
    exact written
  · intro same
    exact (Json.lossless_of_understands numerals_toJson understands_toJson).distinct summary empty
      (same.trans written.symm)

theorem changes_swap (summary : Summary) {first second : Change} (apart : first.Apart second)
    (earlier later : List Change) :
    summary.changes (earlier ++ first :: second :: later) =
      summary.changes (earlier ++ second :: first :: later) := by
  rw [changes_append, changes_append]
  show (((summary.changes earlier).change first).change second).changes later =
    (((summary.changes earlier).change second).change first).changes later
  rw [change_comm _ apart]

/-- After any sequence of changes, each field has the values of the summary that was read last and
then those recorded for it since, and each flag has the value recorded for it last since, or else
the one that was read. Records for different fields or flags can change places, and the summary is
empty exactly when it is written as an empty object. -/
theorem changes_keep_records (steps : List Change) :
    (∀ field, (empty.changes steps).values.get field =
      (empty.lastRead steps).values.get field ++
        (sinceRead steps).filterMap (Change.value? field)) ∧
    (∀ flag, (empty.changes steps).flags.get flag =
      ((sinceRead steps).filterMap (Change.flag? flag)).getLast?.or
        ((empty.lastRead steps).flags.get flag)) ∧
    (∀ (first second : Change) (later : List Change), first.Apart second →
      empty.changes (steps ++ first :: second :: later) =
        empty.changes (steps ++ second :: first :: later)) ∧
    ((empty.changes steps).isEmpty = true ↔ (empty.changes steps).toJson.compact = "\x7b\x7d") := by
  refine ⟨fun field => ?_, fun flag => ?_, fun first second later apart =>
    changes_swap empty apart steps later, isEmpty_iff_compact⟩
  · rw [changes_eq_sinceRead]
    exact values_changes _ (reloaded?_sinceRead steps) field
  · rw [changes_eq_sinceRead]
    exact flags_changes _ (reloaded?_sinceRead steps) flag

/-- These changes read one text and refuse another one. -/
def readOnce : List Change :=
  [.value .name "a", .flag .starred true, .reload "\x7b\"name\":[\"x\"],\"trashed\":true\x7d",
    .value .name "b", .reload "nul", .flag .trashed false, .value .name "b"]

theorem changes_keep_records_readOnce :
    (empty.changes readOnce).values.get .name = ["x", "b", "b"] ∧
      (empty.changes readOnce).flags.get .starred = none ∧
      (empty.changes readOnce).flags.get .trashed = some false ∧
      (Change.value .owner "c").Apart (.flag .starred true) ∧
      empty.changes (readOnce ++ [.value .owner "c", .flag .starred true]) =
        empty.changes (readOnce ++ [.flag .starred true, .value .owner "c"]) := by
  obtain ⟨values, flags, commute, _⟩ := changes_keep_records readOnce
  have apart : (Change.value .owner "c").Apart (.flag .starred true) :=
    ⟨.field .owner, .flag .starred, rfl, rfl, by decide⟩
  have read : empty.lastRead readOnce = ⟨⟨["x"], [], [], [], []⟩, ⟨none, none, some true⟩⟩ := by
    decide +kernel
  have since : sinceRead readOnce =
      [.value .name "b", .reload "nul", .flag .trashed false, .value .name "b"] := by
    decide +kernel
  rw [read, since] at values flags
  exact ⟨values .name, flags .starred, flags .trashed, apart, commute _ _ [] apart⟩

end FileSearch.Summary
