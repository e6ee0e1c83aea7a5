/-
This file reads a JSON text into a value of any kind.
-/

import FileSearch.Json.Sequence

namespace FileSearch.Json.Reader

/-- This reader takes a value with at most `depth` lists and objects inside each other. -/
def valueWithin (depth : Nat) : Reader Json := do
  match ← token with
  | none => failAhead .endOfValue
  | some '[' =>
    match depth with
    | 0 => failAhead .tooDeep
    | inner + 1 => return .array (← items (valueWithin inner))
  | some '{' =>
    match depth with
    | 0 => failAhead .tooDeep
    | inner + 1 => return .object (← members (valueWithin inner))
  | some first =>
    match ← scalar? first with
    | some value => return value
    | none => failAhead .expectedValue
termination_by structural depth

/-- No more than this many lists and objects stand in each other. -/
def greatestDepth : Nat := 127

def value : Reader Json := valueWithin greatestDepth

end FileSearch.Json.Reader
