/-
This file defines the conditions that an expression node sets on a file by itself.
-/

import FileSearch.Attribute
import FileSearch.FieldOperator

namespace FileSearch

/-- A field is tested against one text or by an operator. -/
inductive FieldValue where
  | plain (value : String)
  | operator (operator : FieldOperator)
  deriving DecidableEq

/-- A range of modification times includes its first bound and excludes its second one. -/
structure DateRange where
  notBefore : Option String
  before : Option String
  deriving DecidableEq

/-- These are the conditions of a node that hold no further expressions. -/
structure Conditions where
  fields : FieldMap (Option FieldValue)
  flags : FlagMap (Option Bool)
  modified : Option DateRange
  rawQuery : Option String
  deriving DecidableEq

/-- This record sets no condition. -/
def Conditions.none : Conditions :=
  ⟨FieldMap.replicate Option.none, FlagMap.replicate Option.none, Option.none, Option.none⟩

end FileSearch
