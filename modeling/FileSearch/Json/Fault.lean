/-
This file lists what can be wrong with a JSON text and where.
-/

import FileSearch.Decimal.Layout
import FileSearch.Json.Number
import FileSearch.Text.Quoted

namespace FileSearch.Json

/-- A position counts the lines from one and the bytes behind the last line break from zero. -/
structure Position where
  line : Nat
  column : Nat
  deriving DecidableEq

namespace Position

def start : Position := ⟨1, 0⟩

/-- This is the position behind one byte of a character. -/
def afterByte (position : Position) (character : Char) : Position :=
  if character = '\n' then ⟨position.line + 1, 0⟩ else ⟨position.line, position.column + 1⟩

/-- This is the position behind a character. -/
def after (position : Position) (character : Char) : Position :=
  if character = '\n' then ⟨position.line + 1, 0⟩
  else ⟨position.line, position.column + character.utf8Size⟩

/-- This is the position behind a text. -/
def afterText (position : Position) (text : List Char) : Position :=
  text.foldl after position

/-- This is the position behind a number of bytes of a text, which can end within a character. -/
def afterBytes (position : Position) : Nat → List Char → Position
  | _, [] => position
  | count, character :: rest =>
    if character.utf8Size ≤ count then
      (position.after character).afterBytes (count - character.utf8Size) rest
    else ⟨position.line, position.column + count⟩

end Position

/-- This type lists the causes for refusing a text. -/
inductive Cause where
  | endOfValue
  | endOfList
  | endOfObject
  | endOfString
  | expectedValue
  | expectedWord
  | expectedColon
  | expectedListSeparator
  | expectedObjectSeparator
  | trailingComma
  | keyNotString
  | invalidNumber
  | numberOutOfRange
  | invalidEscape
  | loneSurrogate
  | unpairedSurrogate
  | controlCharacter
  | tooDeep
  | trailingCharacters
  | wrongKind (found : Json) (expected : String)
  | duplicateKey (key : String)
  | unknownKey (key : String) (known : List String)

/-- A decimal shows its sign also when it is zero. -/
def Number.describe : Number → String
  | .integer value => s!"integer `{value}`"
  | .decimal negative magnitude =>
    let text := String.ofList (Decimal.Layout.standard.write magnitude)
    let sign := if negative then "-" else ""
    s!"floating point `{sign}{text}`"

/-- A value of the wrong kind is shown, unless it is a list or an object. -/
def describe : Json → String
  | .null => "null"
  | .boolean value => s!"boolean `{value}`"
  | .number numeral =>
    match numeral.number with
    | .ok value => value.describe
    | .error _ => "number"
  | .string text => s!"string {String.ofList (Text.quote text.toList)}"
  | .array _ => "sequence"
  | .object _ => "map"

/-- The known keys are listed in order with commas between them. -/
def describeKeys (keys : List String) : String :=
  String.intercalate ", " (keys.map fun key => s!"`{key}`")

namespace Cause

def message : Cause → String
  | .endOfValue => "EOF while parsing a value"
  | .endOfList => "EOF while parsing a list"
  | .endOfObject => "EOF while parsing an object"
  | .endOfString => "EOF while parsing a string"
  | .expectedValue => "expected value"
  | .expectedWord => "expected ident"
  | .expectedColon => "expected `:`"
  | .expectedListSeparator => "expected `,` or `]`"
  | .expectedObjectSeparator => "expected `,` or `\x7d`"
  | .trailingComma => "trailing comma"
  | .keyNotString => "key must be a string"
  | .invalidNumber => "invalid number"
  | .numberOutOfRange => "number out of range"
  | .invalidEscape => "invalid escape"
  | .loneSurrogate => "lone leading surrogate in hex escape"
  | .unpairedSurrogate => "unexpected end of hex escape"
  | .controlCharacter => "control character (\\u0000-\\u001F) found while parsing a string"
  | .tooDeep => "recursion limit exceeded"
  | .trailingCharacters => "trailing characters"
  | .wrongKind found expected => s!"invalid type: {found.describe}, expected {expected}"
  | .duplicateKey key => s!"duplicate field `{key}`"
  | .unknownKey key known => s!"unknown field `{key}`, expected one of {describeKeys known}"

end Cause

/-- A fault is a cause and the position at which it was found. -/
structure Fault where
  cause : Cause
  position : Position

/-- The message names the cause first and the position behind it. -/
def Fault.message (fault : Fault) : String :=
  s!"{fault.cause.message} at line {fault.position.line} column {fault.position.column}"

end FileSearch.Json
