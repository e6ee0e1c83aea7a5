/-
This file shows what a summary holds after a number of changes: for each field the values that were
recorded for it, and for each flag the last value, since a summary was read last.
-/

import FileSearch.Summary
import Mathlib.Data.List.Basic
import Mathlib.Data.List.DropRight

namespace FileSearch.Summary

/-- The entries determine the summary. -/
theorem ext_get {first second : Summary}
    (values : ∀ field, first.values.get field = second.values.get field)
    (flags : ∀ flag, first.flags.get flag = second.flags.get flag) : first = second := by
  cases first
  cases second
  rw [mk.injEq]
  exact ⟨FieldMap.ext_get values, FlagMap.ext_get flags⟩

/-- An entry of a summary belongs to a field or to a flag. -/
inductive Slot where
  | field (field : Field)
  | flag (flag : Flag)
  deriving DecidableEq

namespace Change

/-- This is the value that a change records for a field. -/
def value? (field : Field) : Change → Option String
  | .value written text => if written = field then some text else none
  | .flag _ _ => none
  | .reload _ => none

/-- This is the value that a change records for a flag. -/
def flag? (flag : Flag) : Change → Option Bool
  | .value _ _ => none
  | .flag written set => if written = flag then some set else none
  | .reload _ => none

/-- This is the summary that a change reads. There is none when it records or cannot read. -/
def reloaded? : Change → Option Summary
  | .value _ _ => none
  | .flag _ _ => none
  | .reload text => (ofText? text).toOption

/-- A record goes to one entry, and reading concerns all of them. -/
def slot? : Change → Option Slot
  | .value written _ => some (.field written)
  | .flag written _ => some (.flag written)
  | .reload _ => none

/-- These changes record for different fields or flags, or one for a field and one for a flag. -/
def Apart (first second : Change) : Prop :=
  ∃ slot other, first.slot? = some slot ∧ second.slot? = some other ∧ slot ≠ other

theorem value?_eq_none {step : Change} {field : Field}
    (elsewhere : step.slot? ≠ some (.field field)) : step.value? field = none := by
  cases step with
  | value written text => exact if_neg fun equal => elsewhere (by rw [slot?, equal])
  | flag written set => rfl
  | reload text => rfl

theorem flag?_eq_none {step : Change} {flag : Flag}
    (elsewhere : step.slot? ≠ some (.flag flag)) : step.flag? flag = none := by
  cases step with
  | value written text => rfl
  | flag written set => exact if_neg fun equal => elsewhere (by rw [slot?, equal])
  | reload text => rfl

theorem reloaded?_eq_none {step : Change} {slot : Slot} (record : step.slot? = some slot) :
    step.reloaded? = none := by
  cases step with
  | value written text => rfl
  | flag written set => rfl
  | reload text => cases record

end Change

theorem change_of_reloaded? (summary : Summary) {step : Change} {read : Summary}
    (reads : step.reloaded? = some read) : summary.change step = read := by
  cases step with
  | value written text => cases reads
  | flag written set => cases reads
  | reload text => exact congrArg (Option.getD · summary) reads

/-- A text that is refused leaves the summary as it is. -/
theorem change_reload_of_none (summary : Summary) {text : String}
    (refused : (Change.reload text).reloaded? = none) : summary.change (.reload text) = summary :=
  congrArg (Option.getD · summary) refused

theorem values_change (summary : Summary) {step : Change} (readsNone : step.reloaded? = none)
    (field : Field) :
    (summary.change step).values.get field =
      summary.values.get field ++ (step.value? field).toList := by
  cases step with
  | value written value =>
    show (summary.recordValue written value).values.get field = _
    rw [values_recordValue, Change.value?]
    split_ifs <;> rfl
  | flag written value =>
    show (summary.recordFlag written value).values.get field = _
    rw [values_recordFlag]
    exact (List.append_nil _).symm
  | reload text =>
    rw [change_reload_of_none summary readsNone]
    exact (List.append_nil _).symm

theorem flags_change (summary : Summary) {step : Change} (readsNone : step.reloaded? = none)
    (flag : Flag) :
    (summary.change step).flags.get flag = (step.flag? flag).or (summary.flags.get flag) := by
  cases step with
  | value written value =>
    show (summary.recordValue written value).flags.get flag = _
    rw [flags_recordValue]
    rfl
  | flag written value =>
    show (summary.recordFlag written value).flags.get flag = _
    rw [flags_recordFlag, Change.flag?]
    split_ifs <;> rfl
  | reload text =>
    rw [change_reload_of_none summary readsNone]
    rfl

/-- Records in different entries can change places. -/
theorem change_comm (summary : Summary) {first second : Change} (apart : first.Apart second) :
    (summary.change first).change second = (summary.change second).change first := by
  obtain ⟨slot, other, here, there, different⟩ := apart
  have readsNone := Change.reloaded?_eq_none here
  have readsNoneThere := Change.reloaded?_eq_none there
  -- No entry receives a value from both changes.
  have notBoth : ∀ entry, first.slot? ≠ some entry ∨ second.slot? ≠ some entry := by
    intro entry
    rw [here, there, ← not_and_or]
    rintro ⟨same, sameThere⟩
    exact different (Option.some.inj (same.trans sameThere.symm))
  refine ext_get (fun field => ?_) fun flag => ?_
  · rw [values_change _ readsNoneThere, values_change _ readsNone, values_change _ readsNone,
      values_change _ readsNoneThere, List.append_assoc, List.append_assoc]
    obtain elsewhere | elsewhere := notBoth (.field field)
    · rw [Change.value?_eq_none elsewhere, Option.toList_none, List.append_nil, List.nil_append]
    · rw [Change.value?_eq_none elsewhere, Option.toList_none, List.append_nil, List.nil_append]
  · rw [flags_change _ readsNoneThere, flags_change _ readsNone, flags_change _ readsNone,
      flags_change _ readsNoneThere]
    obtain elsewhere | elsewhere := notBoth (.flag flag)
    · rw [Change.flag?_eq_none elsewhere, Option.none_or, Option.none_or]
    · rw [Change.flag?_eq_none elsewhere, Option.none_or, Option.none_or]

theorem changes_append (summary : Summary) (first second : List Change) :
    summary.changes (first ++ second) = (summary.changes first).changes second :=
  List.foldl_append

/-- The values of a field are those that were recorded for it, in order and with repetitions. -/
theorem values_changes (summary : Summary) {steps : List Change}
    (readsNone : ∀ step ∈ steps, step.reloaded? = none) (field : Field) :
    (summary.changes steps).values.get field =
      summary.values.get field ++ steps.filterMap (Change.value? field) := by
  induction steps generalizing summary with
  | nil => exact (List.append_nil _).symm
  | cons step steps inductionHypothesis =>
    rw [List.forall_mem_cons] at readsNone
    show ((summary.change step).changes steps).values.get field = _
    rw [inductionHypothesis (summary.change step) readsNone.2, values_change summary readsNone.1,
      List.append_assoc, List.filterMap_cons]
    cases step.value? field <;> rfl

/-- A flag has the value that was recorded for it last. -/
theorem flags_changes (summary : Summary) {steps : List Change}
    (readsNone : ∀ step ∈ steps, step.reloaded? = none) (flag : Flag) :
    (summary.changes steps).flags.get flag =
      (steps.filterMap (Change.flag? flag)).getLast?.or (summary.flags.get flag) := by
  induction steps generalizing summary with
  | nil => rfl
  | cons step steps inductionHypothesis =>
    rw [List.forall_mem_cons] at readsNone
    show ((summary.change step).changes steps).flags.get flag = _
    rw [inductionHypothesis (summary.change step) readsNone.2, flags_change summary readsNone.1,
      List.filterMap_cons]
    cases step.flag? flag with
    | none => rfl
    | some value =>
      rw [List.getLast?_cons]
      cases (steps.filterMap (Change.flag? flag)).getLast? <;> rfl

/-- This is the summary that was read last, or the one at the start when none was read. -/
def lastRead (summary : Summary) (steps : List Change) : Summary :=
  (steps.filterMap Change.reloaded?).getLast?.getD summary

/-- These changes come behind the last one that reads a summary. -/
def sinceRead (steps : List Change) : List Change :=
  steps.rtakeWhile fun step => step.reloaded?.isNone

theorem reloaded?_sinceRead (steps : List Change) :
    ∀ step ∈ sinceRead steps, step.reloaded? = none := by
  intro step member
  have readsNone := List.mem_rtakeWhile_imp member
  exact Option.isNone_iff_eq_none.mp readsNone

theorem sinceRead_concat_of_none (steps : List Change) {step : Change}
    (readsNone : step.reloaded? = none) : sinceRead (steps ++ [step]) = sinceRead steps ++ [step] :=
  List.rtakeWhile_concat_pos _ _ _ (by rw [readsNone, Option.isNone_none])

theorem sinceRead_concat_of_some (steps : List Change) {step : Change} {read : Summary}
    (reads : step.reloaded? = some read) : sinceRead (steps ++ [step]) = [] :=
  List.rtakeWhile_concat_neg _ _ _ (by rw [reads, Option.isNone_some]; exact Bool.false_ne_true)

theorem lastRead_concat (summary : Summary) (steps : List Change) (step : Change) :
    summary.lastRead (steps ++ [step]) = step.reloaded?.getD (summary.lastRead steps) := by
  rw [lastRead, lastRead, List.filterMap_append, List.getLast?_append, List.filterMap_cons]
  cases step.reloaded? <;> rfl

/-- A run starts anew where a summary is read; what was there before leaves no trace. -/
theorem changes_eq_sinceRead (summary : Summary) (steps : List Change) :
    summary.changes steps = (summary.lastRead steps).changes (sinceRead steps) := by
  induction steps using List.reverseRecOn with
  | nil => rfl
  | append_singleton steps step inductionHypothesis =>
    rw [changes_append, lastRead_concat]
    cases reads : step.reloaded? with
    | none => rw [sinceRead_concat_of_none steps reads, changes_append, inductionHypothesis,
        Option.getD_none]
    | some read =>
      rw [sinceRead_concat_of_some steps reads]
      exact change_of_reloaded? _ reads

end FileSearch.Summary
