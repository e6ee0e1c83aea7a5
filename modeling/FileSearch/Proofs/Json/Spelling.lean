/-
This file tells which texts write a JSON value. Every value has many of them: gaps can stand between
its parts, and most characters of a string have several spellings.
-/

import FileSearch.Json.Cursor
import FileSearch.Json.Printer
import Mathlib.Data.List.Forall2

namespace FileSearch.Json

/-- Such a text has nothing in it but gap characters. -/
def Gap (text : List Char) : Prop :=
  ∀ character ∈ text, isGap character = true

/-- A hexadecimal digit has either case. -/
def Hexadecimal (value : Nat) (digit : Char) : Prop :=
  value < 16 ∧ (digit = Nat.digitChar value ∨ digit = (Nat.digitChar value).toUpper)

/-- Four hexadecimal digits write a number of sixteen bits. -/
inductive UnitText : Nat → List Char → Prop where
  | digits {first second third fourth : Nat} {one two three four : Char}
      (writesFirst : Hexadecimal first one) (writesSecond : Hexadecimal second two)
      (writesThird : Hexadecimal third three) (writesFourth : Hexadecimal fourth four) :
      UnitText (first * 4096 + second * 256 + third * 16 + fourth) [one, two, three, four]

/-- Eight characters can be written by a letter behind a backslash. -/
inductive ShortForm : Char → Char → Prop where
  | quote : ShortForm '"' '"'
  | backslash : ShortForm '\\' '\\'
  | slash : ShortForm '/' '/'
  | backspace : ShortForm '\x08' 'b'
  | formFeed : ShortForm '\x0c' 'f'
  | lineFeed : ShortForm '\n' 'n'
  | carriageReturn : ShortForm '\r' 'r'
  | tabulator : ShortForm '\t' 't'

/-- A character of a string stands for itself, unless it is a quote, a backslash or a control. Every
character can also be written by its number, and one beyond sixteen bits by two numbers. -/
inductive CharacterText : Char → List Char → Prop where
  | plain {character : Char} (noQuote : character ≠ '"') (noBackslash : character ≠ '\\')
      (noControl : ¬ character < ' ') : CharacterText character [character]
  | short {character letter : Char} (form : ShortForm character letter) :
      CharacterText character ['\\', letter]
  | single {character : Char} {digits : List Char} (unit : UnitText character.toNat digits) :
      CharacterText character ('\\' :: 'u' :: digits)
  | pair {character : Char} {high low : Nat} {leading trailing : List Char}
      (highSmall : high < 0x400) (lowSmall : low < 0x400)
      (number : character.toNat = 0x10000 + high * 0x400 + low)
      (first : UnitText (0xd800 + high) leading) (second : UnitText (0xdc00 + low) trailing) :
      CharacterText character ('\\' :: 'u' :: leading ++ '\\' :: 'u' :: trailing)

/-- A string stands between two quotes. -/
inductive StringText : String → List Char → Prop where
  | quoted {text : String} {spellings : List (List Char)}
      (characters : List.Forall₂ CharacterText text.toList spellings) :
      StringText text ('"' :: (spellings.flatten ++ ['"']))

/-- There is at least one digit, and no digit exceeds nine. -/
structure Decimal (digits : List Nat) : Prop where
  nonempty : digits ≠ []
  small : ∀ digit ∈ digits, digit < 10

/-- A point needs digits behind it. -/
inductive FractionText : List Nat → List Char → Prop where
  | absent : FractionText [] []
  | present {digits : List Nat} (decimal : Decimal digits) :
      FractionText digits ('.' :: writeDigits digits)

/-- An exponent can have either mark, and a plus sign can be left out. -/
inductive ExponentText : Option Exponent → List Char → Prop where
  | absent : ExponentText none []
  | negative {digits : List Nat} {mark : Char} (marks : mark = 'e' ∨ mark = 'E')
      (decimal : Decimal digits) :
      ExponentText (some ⟨true, digits⟩) (mark :: '-' :: writeDigits digits)
  | positive {digits : List Nat} {mark : Char} (marks : mark = 'e' ∨ mark = 'E')
      (decimal : Decimal digits) :
      ExponentText (some ⟨false, digits⟩) (mark :: '+' :: writeDigits digits)
  | unsigned {digits : List Nat} {mark : Char} (marks : mark = 'e' ∨ mark = 'E')
      (decimal : Decimal digits) :
      ExponentText (some ⟨false, digits⟩) (mark :: writeDigits digits)

/-- A numeral does not start with a zero that another digit follows. -/
inductive NumeralText : Numeral → List Char → Prop where
  | parts {numeral : Numeral} {fraction exponent : List Char} (whole : Decimal numeral.whole)
      (noLeadingZero : numeral.whole.head? = some 0 → numeral.whole = [0])
      (writesFraction : FractionText numeral.fraction fraction)
      (writesExponent : ExponentText numeral.exponent exponent) :
      NumeralText numeral ((if numeral.negative then ['-'] else []) ++
        (writeDigits numeral.whole ++ (fraction ++ exponent)))

/-- The items of a list or an object stand between gaps, with a comma between each two of them;
there is no comma in front of the first one. -/
inductive SequenceText : Bool → List (List Char) → List Char → Prop where
  | nil {first : Bool} {gap : List Char} (blank : Gap gap) : SequenceText first [] gap
  | first {gap item others : List Char} {items : List (List Char)} (blank : Gap gap)
      (rest : SequenceText false items others) :
      SequenceText true (item :: items) (gap ++ (item ++ others))
  | next {before behind item others : List Char} {items : List (List Char)}
      (blankBefore : Gap before) (blankBehind : Gap behind)
      (rest : SequenceText false items others) :
      SequenceText false (item :: items) (before ++ ',' :: (behind ++ (item ++ others)))

/-- A member is a key and a value with a colon between them. -/
inductive MemberText (Spells : Json → List Char → Prop) : String × Json → List Char → Prop where
  | entry {key : String} {value : Json} {name before behind text : List Char}
      (writesKey : StringText key name) (blankBefore : Gap before) (blankBehind : Gap behind)
      (spells : Spells value text) :
      MemberText Spells (key, value) (name ++ (before ++ ':' :: (behind ++ text)))

/-- The text writes the value, without gaps around it. -/
inductive Spells : Json → List Char → Prop where
  | null : Spells .null ['n', 'u', 'l', 'l']
  | yes : Spells (.boolean true) ['t', 'r', 'u', 'e']
  | no : Spells (.boolean false) ['f', 'a', 'l', 's', 'e']
  | number {numeral : Numeral} {text : List Char} (writes : NumeralText numeral text) :
      Spells (.number numeral) text
  | string {value : String} {text : List Char} (writes : StringText value text) :
      Spells (.string value) text
  | array {items : List Json} {texts : List (List Char)} {inner : List Char}
      (each : List.Forall₂ Spells items texts) (sequence : SequenceText true texts inner) :
      Spells (.array items) ('[' :: (inner ++ [']']))
  | object {members : List (String × Json)} {texts : List (List Char)} {inner : List Char}
      (each : List.Forall₂ (MemberText Spells) members texts)
      (sequence : SequenceText true texts inner) :
      Spells (.object members) ('{' :: (inner ++ ['}']))

/-- The text writes the value and can have gaps around it. -/
def WrittenAs (value : Json) (text : List Char) : Prop :=
  ∃ before own behind, Gap before ∧ Spells value own ∧ Gap behind ∧
    text = before ++ (own ++ behind)

end FileSearch.Json
