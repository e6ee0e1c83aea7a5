/-
This file defines the fault for which an expression cannot be compiled.
-/

import FileSearch.Attribute
import FileSearch.Json.Printer

namespace FileSearch

/-- An expression is refused when a field has an operator without lists. -/
structure Violation where
  field : Field
  deriving DecidableEq

namespace Violation

/-- This value shows the operator at its field. -/
def node (violation : Violation) : Json :=
  .object [(violation.field.key, .object [])]

def reason (_ : Violation) : String :=
  "field operator must carry one of `any`, `all` or `none`"

def message (violation : Violation) : String :=
  s!"contract violation at {violation.node.compact}: {violation.reason}"

end Violation

end FileSearch
