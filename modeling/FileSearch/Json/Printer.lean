/-
This file writes JSON values on one line or on indented lines.
-/

import FileSearch.Json.Value

namespace FileSearch.Json

/-- A control character without a short form is written by its number with four digits. -/
def controlEscape (character : Char) : List Char :=
  ['\\', 'u', '0', '0', Nat.digitChar (character.toNat / 16), Nat.digitChar (character.toNat % 16)]

/-- Only the double quote, the backslash and the controls below the space are escaped. -/
def escapeCharacter (character : Char) : List Char :=
  match character with
  | '"' => ['\\', '"']
  | '\\' => ['\\', '\\']
  | '\x08' => ['\\', 'b']
  | '\x0c' => ['\\', 'f']
  | '\n' => ['\\', 'n']
  | '\r' => ['\\', 'r']
  | '\t' => ['\\', 't']
  | _ => if character < ' ' then controlEscape character else [character]

def writeString (text : String) : List Char :=
  '"' :: text.toList.flatMap escapeCharacter ++ ['"']

def writeDigits (digits : List Nat) : List Char :=
  digits.map Nat.digitChar

def Numeral.write (numeral : Numeral) : List Char :=
  (if numeral.negative then ['-'] else []) ++ writeDigits numeral.whole ++
    (if numeral.fraction = [] then [] else '.' :: writeDigits numeral.fraction) ++
    (match numeral.exponent with
      | none => []
      | some exponent =>
        'e' :: (if exponent.negative then ['-'] else []) ++ writeDigits exponent.digits)

/-- A layout tells what separates the parts of a list or an object at a nesting depth. -/
structure Layout where
  opening : Nat → List Char
  between : Nat → List Char
  closing : Nat → List Char
  colon : List Char

/-- Everything stands on one line without spaces. -/
def Layout.compact : Layout :=
  ⟨fun _ => [], fun _ => [','], fun _ => [], [':']⟩

/-- A new line is indented by two spaces for each enclosing list or object. -/
def newLine (depth : Nat) : List Char :=
  '\n' :: List.replicate (2 * depth) ' '

/-- Every item and every member stands on a line of its own. -/
def Layout.pretty : Layout :=
  ⟨fun depth => newLine (depth + 1), fun depth => ',' :: newLine (depth + 1), newLine, [':', ' ']⟩

mutual

/-- This function writes a value that stands inside `depth` lists and objects. -/
def write (layout : Layout) (depth : Nat) : Json → List Char
  | .null => ['n', 'u', 'l', 'l']
  | .boolean true => ['t', 'r', 'u', 'e']
  | .boolean false => ['f', 'a', 'l', 's', 'e']
  | .number numeral => numeral.write
  | .string text => writeString text
  | .array [] => ['[', ']']
  | .array (item :: items) =>
    '[' :: layout.opening depth ++ write layout (depth + 1) item ++
      writeItems layout depth items ++ layout.closing depth ++ [']']
  | .object [] => ['{', '}']
  | .object ((key, value) :: members) =>
    '{' :: layout.opening depth ++ writeString key ++ layout.colon ++
      write layout (depth + 1) value ++ writeMembers layout depth members ++
      layout.closing depth ++ ['}']

/-- This function writes the items behind the first one. -/
def writeItems (layout : Layout) (depth : Nat) : List Json → List Char
  | [] => []
  | item :: items =>
    layout.between depth ++ write layout (depth + 1) item ++ writeItems layout depth items

/-- This function writes the members behind the first one. -/
def writeMembers (layout : Layout) (depth : Nat) : List (String × Json) → List Char
  | [] => []
  | (key, value) :: members =>
    layout.between depth ++ writeString key ++ layout.colon ++ write layout (depth + 1) value ++
      writeMembers layout depth members

end

/-- This is the text of a value on one line. -/
def compact (value : Json) : String :=
  String.ofList (write Layout.compact 0 value)

/-- This is the text of a value on indented lines. -/
def pretty (value : Json) : String :=
  String.ofList (write Layout.pretty 0 value)

end FileSearch.Json
