/-
This file shows a text between double quotes so that every character in it can be seen.
-/

import FileSearch.Text.Printable

namespace FileSearch.Text

/-- The digits of a number are lower-case hexadecimal ones without leading zeros. -/
def hexadecimal (number : Nat) : List Char :=
  Nat.toDigits 16 number

/-- Common controls, the double quote and the backslash have short forms, and an unprintable
character is shown by its number in braces. -/
def quoteCharacter (character : Char) : List Char :=
  match character with
  | '\x00' => ['\\', '0']
  | '\t' => ['\\', 't']
  | '\r' => ['\\', 'r']
  | '\n' => ['\\', 'n']
  | '"' => ['\\', '"']
  | '\\' => ['\\', '\\']
  | _ =>
    if isPrintable character then [character]
    else ['\\', 'u', '{'] ++ hexadecimal character.toNat ++ ['}']

def quote (text : List Char) : List Char :=
  '"' :: text.flatMap quoteCharacter ++ ['"']

end FileSearch.Text
