/-
This file defines the tests of a field against lists of values.
-/

namespace FileSearch

/-- An operator tests a field against lists of values. A list that is absent differs from an empty
one: an operator must carry at least one list. -/
structure FieldOperator where
  anyOf : Option (List String)
  allOf : Option (List String)
  noneOf : Option (List String)
  deriving DecidableEq

namespace FieldOperator

/-- This operator carries no list. -/
def keyless : FieldOperator := ⟨none, none, none⟩

def ofAny (values : List String) : FieldOperator := { keyless with anyOf := some values }

def ofAll (values : List String) : FieldOperator := { keyless with allOf := some values }

def ofNone (values : List String) : FieldOperator := { keyless with noneOf := some values }

def isKeyless (operator : FieldOperator) : Bool :=
  operator.anyOf.isNone && operator.allOf.isNone && operator.noneOf.isNone

theorem isKeyless_iff (operator : FieldOperator) :
    operator.isKeyless = true ↔ operator = keyless := by
  cases operator with
  | mk anyOf allOf noneOf =>
    cases anyOf <;> cases allOf <;> cases noneOf <;> simp [isKeyless, keyless]

end FieldOperator

end FileSearch
