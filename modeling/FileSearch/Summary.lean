/-
This file records the values and flags that an expression mentions.
-/

import FileSearch.Attribute
import FileSearch.Json.Printer
import FileSearch.Json.Record

namespace FileSearch

/-- A summary keeps the values of each field in order and with repetitions, and the last value of
each flag. -/
structure Summary where
  values : FieldMap (List String)
  flags : FlagMap (Option Bool)
  deriving DecidableEq

namespace Summary

/-- Nothing has been recorded. -/
def empty : Summary := ⟨FieldMap.replicate [], FlagMap.replicate none⟩

/-- The value comes behind those recorded before. -/
def recordValue (summary : Summary) (field : Field) (value : String) : Summary :=
  { summary with values := summary.values.set field (summary.values.get field ++ [value]) }

/-- The value takes the place of the one recorded before. -/
def recordFlag (summary : Summary) (flag : Flag) (value : Bool) : Summary :=
  { summary with flags := summary.flags.set flag (some value) }

def isEmpty (summary : Summary) : Bool :=
  Field.all.all (fun field => (summary.values.get field).isEmpty) &&
    Flag.all.all fun flag => (summary.flags.get flag).isNone

@[simp]
theorem values_recordValue (summary : Summary) (written read : Field) (value : String) :
    (summary.recordValue written value).values.get read =
      summary.values.get read ++ if written = read then [value] else [] := by
  by_cases same : written = read <;> simp [recordValue, same]

@[simp]
theorem flags_recordValue (summary : Summary) (field : Field) (value : String) :
    (summary.recordValue field value).flags = summary.flags := rfl

@[simp]
theorem flags_recordFlag (summary : Summary) (written read : Flag) (value : Bool) :
    (summary.recordFlag written value).flags.get read =
      if written = read then some value else summary.flags.get read := by
  simp [recordFlag]

@[simp]
theorem values_recordFlag (summary : Summary) (flag : Flag) (value : Bool) :
    (summary.recordFlag flag value).values = summary.values := rfl

/-- A field without values has no member. -/
def fieldMember? (summary : Summary) (field : Field) : Option (String × Json) :=
  match summary.values.get field with
  | [] => none
  | values => some (field.key, .array (values.map .string))

/-- A flag without a value has no member. -/
def flagMember? (summary : Summary) (flag : Flag) : Option (String × Json) :=
  (summary.flags.get flag).map fun value => (flag.key, .boolean value)

def toJson (summary : Summary) : Json :=
  .object (Field.all.filterMap summary.fieldMember? ++ Flag.all.filterMap summary.flagMember?)

open Json.Reader in
/-- The values of a field are a list of strings. -/
def fieldMember (field : Field) : Json.Member Summary where
  key := field.key
  change := do
    let entry ← list text
    return fun summary => { summary with values := summary.values.set field entry }

open Json.Reader in
/-- The value of a flag can be left out. -/
def flagMember (flag : Flag) : Json.Member Summary where
  key := flag.key
  change := do
    let entry ← optional truth
    return fun summary => { summary with flags := summary.flags.set flag entry }

/-- All members of a summary can be missing, and other members are passed over. -/
def form : Json.Form Summary where
  title := "struct FilterSummary"
  members := Field.all.map fieldMember ++ Flag.all.map flagMember
  strays := .skimmed
  empty := empty

def ofText? (text : String) : Except Json.Fault Summary :=
  (Json.Reader.record form).readText text

/-- A summary is changed by recording a value or a flag, or by reading another one in its place. -/
inductive Change where
  | value (field : Field) (value : String)
  | flag (flag : Flag) (value : Bool)
  | reload (text : String)
  deriving DecidableEq

/-- Only reading can fail. -/
def change? (summary : Summary) : Change → Except Json.Fault Summary
  | .value field value => .ok (summary.recordValue field value)
  | .flag flag value => .ok (summary.recordFlag flag value)
  | .reload text => ofText? text

/-- A change that fails leaves the summary as it is. -/
def change (summary : Summary) (next : Change) : Summary :=
  (summary.change? next).toOption.getD summary

/-- This function makes changes in order. -/
def changes (summary : Summary) (steps : List Change) : Summary :=
  steps.foldl change summary

end Summary

end FileSearch
