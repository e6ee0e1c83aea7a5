/-
This file compiles expressions to query texts.
-/

import FileSearch.Emission
import FileSearch.Text.Dangling

namespace FileSearch

/-- A repair keeps a query text as it was before and after dangling keywords were removed. -/
structure Repair where
  before : String
  after : String
  deriving DecidableEq

/-- This is the note for the log when a query text was repaired. -/
def Repair.message : String := "stripped dangling operator from compiled query"

/-- The result of compiling an expression is a query text, a summary of the expression, and a repair
where there was one. -/
structure Compiled where
  queryString : String
  filters : Summary
  repair : Option Repair
  deriving DecidableEq

namespace Compiled

/-- The repair is no part of the written form. -/
def toJson (compiled : Compiled) : Json :=
  .object [("queryString", .string compiled.queryString), ("filters", compiled.filters.toJson)]

/-- Dangling keywords are removed from the text of a clause. -/
def ofClause (clause : Option Clause) (filters : Summary) : Compiled :=
  let emitted := Clause.textOf clause
  let stripped := Text.stripDangling emitted
  { queryString := String.ofList stripped
    filters := filters
    repair :=
      if stripped = emitted then none
      else some ⟨String.ofList emitted, String.ofList stripped⟩ }

end Compiled

namespace Expression

/-- A raw text at the root is the query text and mentions nothing. -/
def compile : Expression → Except Violation Compiled
  | .raw text => .ok ⟨text, Summary.empty, none⟩
  | .node parts => do
    let (clause, filters) ← (Emission.node true parts).run Summary.empty
    return Compiled.ofClause clause filters

end Expression

end FileSearch
