/-
This file reads a query character by character and tells where its parentheses and literals stand.
-/

import FileSearch.Connective

namespace FileSearch.Text

/-- This type tells whether a literal is open and whether its next character is taken as it is. -/
inductive Quoting where
  | outside
  | inside
  | escaped
  deriving DecidableEq

/-- This state counts the open parentheses and keeps the quoting. -/
structure ScanState where
  depth : Nat
  quoting : Quoting
  deriving DecidableEq

namespace ScanState

/-- A text starts outside all parentheses and literals. -/
def start : ScanState := ⟨0, .outside⟩

/-- A quote opens and closes a literal, a backslash inside it protects one character, and a
parenthesis counts only outside; a surplus closing parenthesis leaves the depth at zero. -/
def step (state : ScanState) (character : Char) : ScanState :=
  match state.quoting with
  | .escaped => { state with quoting := .inside }
  | .inside =>
    if character = '\\' then { state with quoting := .escaped }
    else if character = '\'' then { state with quoting := .outside }
    else state
  | .outside =>
    if character = '\'' then { state with quoting := .inside }
    else if character = '(' then { state with depth := state.depth + 1 }
    else if character = ')' then { state with depth := state.depth - 1 }
    else state

/-- This function reads a whole text. -/
def run (state : ScanState) (text : List Char) : ScanState :=
  text.foldl step state

@[simp]
theorem run_nil (state : ScanState) : state.run [] = state := rfl

@[simp]
theorem run_cons (state : ScanState) (character : Char) (rest : List Char) :
    state.run (character :: rest) = (state.step character).run rest := rfl

end ScanState

/-- The text goes on with a keyword between two spaces. -/
def startsWithOperator (text : List Char) : Bool :=
  Connective.all.any fun connective => connective.separator.isPrefixOf text

/-- This function looks for an operator outside all parentheses and literals. -/
def hasOperatorFrom (state : ScanState) : List Char → Bool
  | [] => false
  | character :: rest =>
    (state == ScanState.start && startsWithOperator (character :: rest)) ||
      hasOperatorFrom (state.step character) rest

/-- A condition that is appended to such a text would bind to a part of it only. -/
def hasTopLevelOperator (text : List Char) : Bool :=
  hasOperatorFrom ScanState.start text

end FileSearch.Text
