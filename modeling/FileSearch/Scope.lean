/-
This file restricts queries to a folder and to files outside the trash.
-/

import FileSearch.Compiled
import FileSearch.Text.Scan

namespace FileSearch

/-- A scope can name a folder, and tells whether files in the trash are searched too. -/
structure Scope where
  folder : Option String
  includeTrashed : Bool
  deriving DecidableEq

namespace Scope

/-- This scope names no folder and leaves out the trash. -/
def standard : Scope := ⟨none, false⟩

/-- This scope names a folder and leaves out the trash. -/
def ofFolder (folder : String) : Scope := ⟨some folder, false⟩

/-- A blank folder restricts nothing. -/
def folderClause? (scope : Scope) : Option Clause :=
  (scope.folder.filter fun folder => !Text.isBlank folder.toList).map fun folder =>
    .atom (.matching .parentId folder)

/-- An expression that settles the trash flag itself is not restricted further. -/
def trashClause? (scope : Scope) (expression : Expression) : Option Clause :=
  if scope.includeTrashed || expression.constrainsTrashed then none
  else some (.atom (.marked .trashed false))

/-- These are the conditions that a scope adds. -/
def restrictions (scope : Scope) (expression : Expression) : List Clause :=
  [scope.folderClause?, scope.trashClause? expression].filterMap id

/-- The query is put in parentheses where a restriction would bind to a part of it only. -/
def queryClause (query : String) (restricted : Bool) : Clause :=
  if restricted && Text.hasTopLevelOperator query.toList then .grouped (.verbatim query)
  else .verbatim query

/-- The restrictions are joined to a query, which is the compiled form of an expression; a blank
query is left out. -/
def apply (scope : Scope) (query : String) (expression : Expression) : String :=
  let restrictions := scope.restrictions expression
  let queries :=
    if Text.isBlank query.toList then [] else [queryClause query (!restrictions.isEmpty)]
  String.ofList (Clause.textOf (Clause.join .conjunction (queries ++ restrictions)))

def toJson (scope : Scope) : Json :=
  .object [("folderId", (scope.folder.map Json.string).getD .null),
    ("includeTrashed", .boolean scope.includeTrashed)]

open Json.Reader in
/-- Both members can be missing, and other members are passed over. -/
def form : Json.Form Scope where
  title := "struct SearchScope"
  members := [
    ⟨"folderId", do
      let entry ← optional text
      return fun scope => { scope with folder := entry }⟩,
    ⟨"includeTrashed", do
      let entry ← truth
      return fun scope => { scope with includeTrashed := entry }⟩]
  strays := .skimmed
  empty := standard

def ofText? (text : String) : Except Json.Fault Scope :=
  (Json.Reader.record form).readText text

end Scope

namespace Expression

/-- The query of a compiled expression is restricted to a scope. -/
def compileWithin (scope : Scope) (expression : Expression) : Except Violation Compiled := do
  let compiled ← expression.compile
  return { compiled with queryString := scope.apply compiled.queryString expression }

end Expression

end FileSearch
