/-
This file names the two words that join the conditions of a query.
-/

namespace FileSearch

/-- This type lists the joining words; the conjunction binds tighter than the disjunction. -/
inductive Connective where
  | conjunction
  | disjunction
  deriving DecidableEq

namespace Connective

def keyword : Connective → List Char
  | .conjunction => ['a', 'n', 'd']
  | .disjunction => ['o', 'r']

/-- A keyword that stands between two conditions has one space on each side. -/
def separator (connective : Connective) : List Char :=
  ' ' :: connective.keyword ++ [' ']

/-- This list gives both connectives in the order in which a text is searched for them. -/
def all : List Connective := [.conjunction, .disjunction]

theorem mem_all (connective : Connective) : connective ∈ all := by
  cases connective <;> decide

end Connective

end FileSearch
