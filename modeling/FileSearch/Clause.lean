/-
This file defines the clauses of a query and the text that a query has.
-/

import FileSearch.Attribute
import FileSearch.Connective
import FileSearch.Text.Blank
import FileSearch.Text.Literal

namespace FileSearch

/-- This type lists the conditions that a query tests directly. -/
inductive Atom where
  | matching (field : Field) (value : String)
  | marked (flag : Flag) (value : Bool)
  | modifiedNotBefore (bound : String)
  | modifiedBefore (bound : String)
  deriving DecidableEq

namespace Atom

/-- Each field has its own way to be compared with a literal, which stands behind the words for
texts and in front of them for the members of a list. -/
def fieldText (field : Field) (value : List Char) : List Char :=
  match field with
  | .name => "name contains ".toList ++ Text.literal value
  | .mimeType => "mimeType = ".toList ++ Text.literal value
  | .fullText => "fullText contains ".toList ++ Text.literal value
  | .parentId => Text.literal value ++ " in parents".toList
  | .owner => Text.literal value ++ " in owners".toList

def flagText (flag : Flag) (value : Bool) : List Char :=
  flag.key.toList ++ " = ".toList ++ (if value then "true" else "false").toList

/-- This is the text of an atom in a query. -/
def text : Atom → List Char
  | .matching field value => fieldText field value.toList
  | .marked flag value => flagText flag value
  | .modifiedNotBefore bound => "modifiedTime >= ".toList ++ Text.literal bound.toList
  | .modifiedBefore bound => "modifiedTime < ".toList ++ Text.literal bound.toList

end Atom

/-- A clause is an atom, a text that is used as it is, a sequence of clauses under one connective
without parentheses, a clause in parentheses, or a negated clause. -/
inductive Clause where
  | atom (atom : Atom)
  | verbatim (text : String)
  | joined (connective : Connective) (parts : List Clause)
  | grouped (inner : Clause)
  | negated (inner : Clause)

namespace Clause

mutual

/-- This is the text of a clause in a query. -/
def text : Clause → List Char
  | .atom condition => condition.text
  | .verbatim text => text.toList
  | .joined connective parts => joinedText connective parts
  | .grouped inner => '(' :: text inner ++ [')']
  | .negated inner => "not (".toList ++ text inner ++ [')']

/-- The connective stands between each two parts. -/
def joinedText (connective : Connective) : List Clause → List Char
  | [] => []
  | [part] => text part
  | part :: rest => text part ++ connective.separator ++ joinedText connective rest

end

/-- A blank text is no clause. -/
def ofText? (text : String) : Option Clause :=
  if Text.isBlank text.toList then none else some (.verbatim text)

/-- A sequence without parts is no clause, and a single part stands alone. -/
def join (connective : Connective) : List Clause → Option Clause
  | [] => none
  | [part] => some part
  | parts => some (.joined connective parts)

/-- Two or more parts are joined and put in parentheses. -/
def chain (connective : Connective) : List Clause → Option Clause
  | [] => none
  | [part] => some part
  | parts => some (.grouped (.joined connective parts))

/-- A missing clause has the empty text. -/
def textOf : Option Clause → List Char
  | none => []
  | some clause => clause.text

/-- This function chains texts as they are; blank ones are left out. -/
def chainTexts (connective : Connective) (texts : List String) : String :=
  String.ofList (textOf (chain connective (texts.filterMap ofText?)))

end Clause

end FileSearch
