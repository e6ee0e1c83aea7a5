/-
This file reads search expressions from JSON texts.
-/

import FileSearch.Expression.OfJson
import FileSearch.Json.Tree

namespace FileSearch.Expression

/-- A text is no expression when it is no JSON text, or when its value is no expression. -/
inductive Malformed where
  | fault (fault : Json.Fault)
  | shape

/-- A value that is no expression has no position to report. -/
def Malformed.detail : Malformed → String
  | .fault found => found.message
  | .shape => "data did not match any variant of untagged enum QueryExpression"

def Malformed.message (malformed : Malformed) : String :=
  s!"malformed query expression: {malformed.detail}"

/-- This function takes a value from the start of a text and then looks at what is left behind it,
so a value that is no expression is refused before anything behind it. -/
def ofText? (text : String) : Except Malformed Expression :=
  match Json.Reader.value.run (Json.Cursor.ofText text.toList) with
  | .error found => .error (.fault found)
  | .ok (value, cursor) =>
    match ofJson? value with
    | none => .error .shape
    | some expression =>
      match Json.Reader.finish.run cursor with
      | .error found => .error (.fault found)
      | .ok _ => .ok expression

end FileSearch.Expression
