/-
This file reads the values of a JSON text that hold no other values.
-/

import FileSearch.Json.Cursor

namespace FileSearch.Json.Reader

/-- This reader takes the given letters one by one. -/
def letters : List Char → Reader Unit
  | [] => return ()
  | letter :: rest => do
    match ← peek with
    | none => failHere .endOfValue
    | some character =>
      if character = letter then
        skip 1
        letters rest
      else failAhead .expectedWord

/-- This function gives the digits of a text as numbers. -/
def digitValues (digits : List Char) : List Nat :=
  digits.map fun digit => digit.toNat - '0'.toNat

/-- This reader takes a sequence of digits, which can be empty. -/
def digits : Reader (List Nat) := do
  return digitValues (← takeWhile Char.isDigit)

/-- This reader takes at least one digit. The text can also stop where the first one must stand,
and the caller names the cause for that. -/
def someDigits (cut : Cause) : Reader (List Nat) := do
  match ← peek with
  | none => failHere cut
  | some character => if character.isDigit then digits else failAhead .invalidNumber

/-- A numeral does not start with a zero unless the zero is its whole part. -/
def wholePart (cut : Cause) : Reader (List Nat) := do
  match ← peek with
  | some '0' =>
    skip 1
    match ← peek with
    | none => return [0]
    | some character => if character.isDigit then failAhead .invalidNumber else return [0]
  | _ => someDigits cut

/-- A point needs a digit behind it. -/
def fractionPart (cut : Cause) : Reader (List Nat) := do
  match ← peek with
  | some '.' =>
    skip 1
    someDigits cut
  | _ => return []

/-- An exponent needs a digit behind its mark and its sign. -/
def exponentPart (cut : Cause) : Reader (Option Exponent) := do
  let mark ← peek
  if mark = some 'e' ∨ mark = some 'E' then
    skip 1
    let sign ← peek
    if sign = some '+' ∨ sign = some '-' then skip 1
    return some ⟨sign = some '-', ← someDigits cut⟩
  else return none

/-- This reader takes a numeral whatever its size. -/
def numeral (cut : Cause) : Reader Numeral := do
  let sign ← peek
  if sign = some '-' then skip 1
  let whole ← wholePart cut
  let fraction ← fractionPart cut
  return ⟨sign = some '-', whole, fraction, ← exponentPart cut⟩

/-- This reader refuses a numeral whose magnitude is too large as soon as this is certain. -/
def boundedNumeral : Reader Numeral := do
  let result ← numeral .endOfValue
  match result.number with
  | .ok _ => return result
  | .error unread =>
    let position := (← get).position
    failAt ⟨position.line, position.column - unread⟩ .numberOutOfRange

/-- This function reads one hexadecimal digit of either case. -/
def hexadecimalDigit? (character : Char) : Option Nat :=
  if '0' ≤ character ∧ character ≤ '9' then some (character.toNat - '0'.toNat)
  else if 'a' ≤ character ∧ character ≤ 'f' then some (character.toNat - 'a'.toNat + 10)
  else if 'A' ≤ character ∧ character ≤ 'F' then some (character.toNat - 'A'.toNat + 10)
  else none

/-- Four hexadecimal digits write one unit of sixteen bits. -/
def codeUnit? : List Char → Option Nat
  | [first, second, third, fourth] => do
    let first ← hexadecimalDigit? first
    let second ← hexadecimalDigit? second
    let third ← hexadecimalDigit? third
    let fourth ← hexadecimalDigit? fourth
    return ((first * 16 + second) * 16 + third) * 16 + fourth
  | _ => none

/-- This function counts the bytes of a text in UTF-8. -/
def byteCount (text : List Char) : Nat :=
  text.foldl (fun count character => count + character.utf8Size) 0

/-- This reader takes four hexadecimal digits. A shorter text ends the string, and four bytes that
are no digits are refused together. -/
def codeUnit : Reader Nat := do
  let cursor ← get
  match codeUnit? (cursor.rest.take 4) with
  | some unit =>
    skip 4
    return unit
  | none =>
    if byteCount cursor.rest < 4 then
      failAt (cursor.position.afterText cursor.rest) .endOfString
    else failAt (cursor.position.afterBytes 4 cursor.rest) .invalidEscape

def isLeadingSurrogate (unit : Nat) : Bool := 0xd800 ≤ unit && unit ≤ 0xdbff

def isTrailingSurrogate (unit : Nat) : Bool := 0xdc00 ≤ unit && unit ≤ 0xdfff

/-- This reader takes one given character of the second half of a surrogate pair. -/
def pairCharacter (expected : Char) : Reader Unit := do
  match ← peek with
  | none => failHere .endOfString
  | some character => if character = expected then skip 1 else failAhead .unpairedSurrogate

/-- A character beyond sixteen bits is written as a leading and a trailing surrogate. -/
def writtenCodePoint : Reader Char := do
  let unit ← codeUnit
  if isTrailingSurrogate unit then failHere .loneSurrogate
  else if isLeadingSurrogate unit then
    pairCharacter '\\'
    pairCharacter 'u'
    let trailing ← codeUnit
    if isTrailingSurrogate trailing then
      return Char.ofNat ((unit - 0xd800) * 0x400 + (trailing - 0xdc00) + 0x10000)
    else failHere .loneSurrogate
  else return Char.ofNat unit

/-- These letters behind a backslash stand for one character each. -/
def shortEscape? : Char → Option Char
  | '"' => some '"'
  | '\\' => some '\\'
  | '/' => some '/'
  | 'b' => some '\x08'
  | 'f' => some '\x0c'
  | 'n' => some '\n'
  | 'r' => some '\r'
  | 't' => some '\t'
  | _ => none

/-- This reader takes what stands behind a backslash; the caller names what to do with a written
code point. -/
def escapeSequence {Result : Type} (short : Char → Result) (written : Reader Result) :
    Reader Result := do
  match ← peek with
  | none => failHere .endOfString
  | some 'u' =>
    skip 1
    written
  | some character =>
    match shortEscape? character with
    | some meant =>
      skip 1
      return short meant
    | none => failAhead .invalidEscape

/-- This reader takes the rest of a string behind its opening quote. The fuel bounds the number of
characters, and the characters taken so far come in reverse order. -/
def stringBehind : Nat → List Char → Reader (List Char)
  | 0, _ => failHere .endOfString
  | fuel + 1, taken => do
    match ← peek with
    | none => failHere .endOfString
    | some '"' =>
      skip 1
      return taken.reverse
    | some '\\' =>
      skip 1
      let character ← escapeSequence id writtenCodePoint
      stringBehind fuel (character :: taken)
    | some character =>
      if character < ' ' then failAhead .controlCharacter
      else
        skip 1
        stringBehind fuel (character :: taken)

/-- This reader takes a string at its opening quote. -/
def string : Reader String := do
  skip 1
  let cursor ← get
  return String.ofList (← stringBehind (cursor.rest.length + 1) [])

/-- This reader takes a value that starts with the given character, if it holds no other values. -/
def scalar? (first : Char) : Reader (Option Json) := do
  if first = 'n' then
    letters ['n', 'u', 'l', 'l']
    return some .null
  else if first = 't' then
    letters ['t', 'r', 'u', 'e']
    return some (.boolean true)
  else if first = 'f' then
    letters ['f', 'a', 'l', 's', 'e']
    return some (.boolean false)
  else if first = '"' then return some (.string (← string))
  else if first = '-' ∨ first.isDigit then return some (.number (← boundedNumeral))
  else return none

end FileSearch.Json.Reader
