/-
This file passes over a value that nobody asks for. Only its form is checked: it can be nested to
any depth, its numbers can have any size, and its strings can hold half a surrogate pair.
-/

import FileSearch.Json.Sequence

namespace FileSearch.Json

/-- This type tells the two kinds of values that hold other values. -/
inductive Bracket where
  | list
  | object
  deriving DecidableEq

namespace Bracket

def closing : Bracket → Char
  | .list => ']'
  | .object => '}'

/-- The text stops where the bracket must be closed. -/
def cut : Bracket → Cause
  | .list => .endOfList
  | .object => .endOfObject

/-- Neither a comma nor the closing bracket follows a value. -/
def unseparated : Bracket → Cause
  | .list => .expectedListSeparator
  | .object => .expectedObjectSeparator

end Bracket

/-- A skimming reader stands in front of a value, behind the start of a bracket or behind a value in
a bracket. The enclosing brackets are listed from the inside. -/
inductive SkimState where
  | beforeValue (enclosing : List Bracket)
  | opened (bracket : Bracket) (enclosing : List Bracket)
  | afterValue (bracket : Bracket) (enclosing : List Bracket)

/-- A complete value ends the reading when no bracket is left open. -/
def SkimState.completed : List Bracket → Option SkimState
  | [] => none
  | bracket :: enclosing => some (.afterValue bracket enclosing)

namespace Reader

/-- This reader passes over the rest of a string behind its opening quote. The fuel bounds the
number of characters. -/
def skimStringBehind : Nat → Reader Unit
  | 0 => failHere .endOfString
  | fuel + 1 => do
    match ← peek with
    | none => failHere .endOfString
    | some '"' => skip 1
    | some '\\' =>
      skip 1
      escapeSequence (fun _ => ()) (do let _ ← codeUnit)
      skimStringBehind fuel
    | some character =>
      if character < ' ' then failHere .controlCharacter
      else
        skip 1
        skimStringBehind fuel

def skimString : Reader Unit := do
  skip 1
  skimStringBehind ((← get).rest.length + 1)

/-- This reader passes over a value that holds no other values, at its first character. -/
def skimScalar (first : Char) : Reader Unit := do
  if first = 'n' then letters ['n', 'u', 'l', 'l']
  else if first = 't' then letters ['t', 'r', 'u', 'e']
  else if first = 'f' then letters ['f', 'a', 'l', 's', 'e']
  else if first = '"' then skimString
  else if first = '-' ∨ first.isDigit then
    let _ ← numeral .invalidNumber
  else failAhead .expectedValue

/-- This reader moves to the next value of a bracket; in an object a key stands in front of it. -/
def skimStart (bracket : Bracket) : Reader Unit := do
  match bracket with
  | .list => return ()
  | .object =>
    match ← token with
    | none => failAhead .endOfObject
    | some '"' =>
      skimString
      colon
    | some _ => failAhead .keyNotString

/-- This reader takes one step; there is no next state behind a complete value. -/
def skimStep : SkimState → Reader (Option SkimState)
  | .beforeValue enclosing => do
    match ← token with
    | none => failAhead .endOfValue
    | some '[' =>
      skip 1
      return some (.opened .list enclosing)
    | some '{' =>
      skip 1
      return some (.opened .object enclosing)
    | some first =>
      skimScalar first
      return SkimState.completed enclosing
  | .opened bracket enclosing => do
    match ← token with
    | none => failAhead bracket.cut
    | some next =>
      if next = bracket.closing then
        skip 1
        return SkimState.completed enclosing
      else
        skimStart bracket
        return some (.beforeValue (bracket :: enclosing))
  | .afterValue bracket enclosing => do
    match ← token with
    | none => failAhead bracket.cut
    | some next =>
      if next = ',' then
        skip 1
        skimStart bracket
        return some (.beforeValue (bracket :: enclosing))
      else if next = bracket.closing then
        skip 1
        return SkimState.completed enclosing
      else failAhead bracket.unseparated

/-- This reader goes on until a value is complete. The fuel bounds the number of steps. -/
def skimFrom : Nat → SkimState → Reader Unit
  | 0, _ => failAhead .endOfValue
  | fuel + 1, state => do
    match ← skimStep state with
    | none => return ()
    | some next => skimFrom fuel next

/-- Two steps take at least one character, so the fuel covers the rest of the text. -/
def skimValue : Reader Unit := do
  skimFrom (2 * (← get).rest.length + 2) (.beforeValue [])

end Reader

end FileSearch.Json
