/-
This file defines the values that a JSON text can write.
-/

namespace FileSearch

namespace Json

/-- An exponent keeps its sign and its digits as they are written. -/
structure Exponent where
  negative : Bool
  digits : List Nat
  deriving DecidableEq

/-- A numeral keeps the digits in front of the point, those behind it and the exponent; a numeral
without a point has no digits behind it. -/
structure Numeral where
  negative : Bool
  whole : List Nat
  fraction : List Nat
  exponent : Option Exponent
  deriving DecidableEq

end Json

/-- The members of an object stay in the order of the text, and a key can occur more than once. -/
inductive Json where
  | null
  | boolean (value : Bool)
  | number (numeral : Json.Numeral)
  | string (text : String)
  | array (items : List Json)
  | object (members : List (String × Json))

end FileSearch
