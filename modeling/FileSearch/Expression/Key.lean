/-
This file names the members of an expression node in a JSON text.
-/

import FileSearch.Attribute

namespace FileSearch.Expression

/-- This type lists the members of a node. -/
inductive Key where
  | conjuncts
  | disjuncts
  | negation
  | field (field : Field)
  | flag (flag : Flag)
  | modified
  | rawQuery
  deriving DecidableEq

namespace Key

/-- This list gives every key once, in the order in which a node that is written as a list has its
values. -/
def all : List Key :=
  [.conjuncts, .disjuncts, .negation] ++ Field.all.map .field ++ Flag.all.map .flag ++
    [.modified, .rawQuery]

def name : Key → String
  | .conjuncts => "$and"
  | .disjuncts => "$or"
  | .negation => "$not"
  | .field tested => tested.key
  | .flag tested => tested.key
  | .modified => "modifiedTime"
  | .rawQuery => "rawQuery"

def ofName? (text : String) : Option Key :=
  all.find? (·.name = text)

theorem mem_all (key : Key) : key ∈ all := by
  cases key with
  | field tested => cases tested <;> decide
  | flag tested => cases tested <;> decide
  | conjuncts => decide
  | disjuncts => decide
  | negation => decide
  | modified => decide
  | rawQuery => decide

theorem ofName?_name (key : Key) : ofName? key.name = some key := by
  cases key with
  | field tested => cases tested <;> decide +kernel
  | flag tested => cases tested <;> decide +kernel
  | conjuncts => decide +kernel
  | disjuncts => decide +kernel
  | negation => decide +kernel
  | modified => decide +kernel
  | rawQuery => decide +kernel

theorem name_of_ofName? {text : String} {key : Key} (found : ofName? text = some key) :
    key.name = text := by
  simpa using List.find?_some found

end Key

end FileSearch.Expression
