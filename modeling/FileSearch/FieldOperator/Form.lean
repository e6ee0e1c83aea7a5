/-
This file reads and writes a field operator that stands alone in a JSON text.
-/

import FileSearch.FieldOperator
import FileSearch.Json.Printer
import FileSearch.Json.Record

namespace FileSearch.FieldOperator

/-- A list that is absent has no member; an empty list has one. -/
def listMember? (key : String) (values : Option (List String)) : Option (String × Json) :=
  values.map fun values => (key, .array (values.map .string))

def toJson (operator : FieldOperator) : Json :=
  .object ([listMember? "any" operator.anyOf, listMember? "all" operator.allOf,
    listMember? "none" operator.noneOf].filterMap id)

open Json.Reader in
/-- The values of a list can be left out. -/
def listMember (key : String)
    (set : Option (List String) → FieldOperator → FieldOperator) : Json.Member FieldOperator where
  key := key
  change := do
    let entry ← optional (list text)
    return set entry

/-- Members other than the three lists are refused. -/
def form : Json.Form FieldOperator where
  title := "struct FieldOperator"
  members := [
    listMember "any" fun entry operator => { operator with anyOf := entry },
    listMember "all" fun entry operator => { operator with allOf := entry },
    listMember "none" fun entry operator => { operator with noneOf := entry }]
  strays := .refused
  empty := keyless

def ofText? (text : String) : Except Json.Fault FieldOperator :=
  (Json.Reader.record form).readText text

end FileSearch.FieldOperator
