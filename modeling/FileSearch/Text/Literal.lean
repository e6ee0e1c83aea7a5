/-
This file writes the literals of a query between single quotes.
-/

namespace FileSearch.Text

/-- Every single quote receives a backslash in front of it, and no other character changes. -/
def escape : List Char → List Char
  | [] => []
  | character :: rest =>
    if character = '\'' then '\\' :: '\'' :: escape rest else character :: escape rest

/-- A literal is its escaped text between two single quotes. -/
def literal (value : List Char) : List Char :=
  '\'' :: escape value ++ ['\'']

theorem escape_cons_quote (rest : List Char) :
    escape ('\'' :: rest) = '\\' :: '\'' :: escape rest := rfl

theorem escape_cons_of_ne {character : Char} (noQuote : character ≠ '\'') (rest : List Char) :
    escape (character :: rest) = character :: escape rest :=
  if_neg noQuote

@[simp]
theorem escape_append (first second : List Char) :
    escape (first ++ second) = escape first ++ escape second := by
  induction first with
  | nil => rfl
  | cons character rest inductionHypothesis =>
    by_cases quote : character = '\'' <;> simp [escape, quote, inductionHypothesis]

end FileSearch.Text
