/-
This file moves through a JSON text character by character.
-/

import FileSearch.Json.Fault

namespace FileSearch.Json

/-- A cursor holds the text that is left to read and the position in front of it. -/
structure Cursor where
  rest : List Char
  position : Position
  deriving DecidableEq

/-- A cursor starts in front of the whole text. -/
def Cursor.ofText (text : List Char) : Cursor := ⟨text, Position.start⟩

/-- The cursor moves behind a number of characters. -/
def Cursor.advance (cursor : Cursor) (count : Nat) : Cursor :=
  ⟨cursor.rest.drop count, cursor.position.afterText (cursor.rest.take count)⟩

/-- A reader takes a part of the text from the cursor or finds a fault in it. -/
abbrev Reader := StateT Cursor (Except Fault)

namespace Reader

variable {Result : Type}

/-- The fault lies at a given position. -/
def failAt (position : Position) (cause : Cause) : Reader Result :=
  throw ⟨cause, position⟩

/-- The fault lies behind everything that has been read. -/
def failHere (cause : Cause) : Reader Result := do
  failAt (← get).position cause

/-- The fault lies behind the first byte that has not been read, or at the end of the text. -/
def failAhead (cause : Cause) : Reader Result := do
  let cursor ← get
  match cursor.rest with
  | [] => failAt cursor.position cause
  | character :: _ => failAt (cursor.position.afterByte character) cause

/-- This reader shows the next character without taking it. -/
def peek : Reader (Option Char) := do
  return (← get).rest.head?

/-- This reader takes a number of characters. -/
def skip (count : Nat) : Reader Unit :=
  modify (·.advance count)

/-- This reader takes all characters up to the first one outside a class. -/
def takeWhile (inside : Char → Bool) : Reader (List Char) := do
  let taken := (← get).rest.takeWhile inside
  skip taken.length
  return taken

end Reader

/-- Only these four characters can stand between the parts of a JSON text. -/
def isGap (character : Char) : Bool :=
  character = ' ' || character = '\n' || character = '\t' || character = '\r'

namespace Reader

variable {Result : Type}

/-- This reader takes a gap and shows the character behind it. -/
def token : Reader (Option Char) := do
  let _ ← takeWhile isGap
  peek

/-- Nothing but a gap can be left at the end. -/
def finish : Reader Unit := do
  match ← token with
  | none => return ()
  | some _ => failAhead .trailingCharacters

/-- This function applies a reader to a whole text. -/
def readText (reader : Reader Result) (text : String) : Except Fault Result := do
  let whole : Reader Result := do
    let result ← reader
    finish
    return result
  return (← whole.run (Cursor.ofText text.toList)).1

end Reader

end FileSearch.Json
