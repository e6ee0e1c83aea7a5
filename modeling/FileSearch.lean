import FileSearch.Expression.Equality
import FileSearch.FieldOperator.Form
import FileSearch.Main
import FileSearch.Proofs.Clause.Demand
import FileSearch.Proofs.Clause.FieldText
import FileSearch.Proofs.Clause.Frame
import FileSearch.Proofs.Clause.Reading
import FileSearch.Proofs.Clause.Shape
import FileSearch.Proofs.Clause.Traversal
import FileSearch.Proofs.Compile.Balance
import FileSearch.Proofs.Compile.Binding
import FileSearch.Proofs.Compile.Combinators
import FileSearch.Proofs.Compile.Literals
import FileSearch.Proofs.Compile.Meaning
import FileSearch.Proofs.Compile.Mention
import FileSearch.Proofs.Compile.Padding
import FileSearch.Proofs.Compile.Phrasing
import FileSearch.Proofs.Compile.Pieces
import FileSearch.Proofs.Compile.Placement
import FileSearch.Proofs.Compile.Refusal
import FileSearch.Proofs.Compile.Repair
import FileSearch.Proofs.Compile.Scope
import FileSearch.Proofs.Compile.Summary
import FileSearch.Proofs.Compile.Trash
import FileSearch.Proofs.Compile.Within
import FileSearch.Proofs.Compile.Wrapping
import FileSearch.Proofs.Emission
import FileSearch.Proofs.Entries
import FileSearch.Proofs.Expression.Conjuncts
import FileSearch.Proofs.Expression.Content
import FileSearch.Proofs.Expression.Entry
import FileSearch.Proofs.Expression.Fold
import FileSearch.Proofs.Expression.Guard
import FileSearch.Proofs.Expression.Meaning
import FileSearch.Proofs.Expression.OfText
import FileSearch.Proofs.Expression.Operand
import FileSearch.Proofs.Expression.Outline
import FileSearch.Proofs.Expression.Padding
import FileSearch.Proofs.Expression.Respelling
import FileSearch.Proofs.Expression.Traversal
import FileSearch.Proofs.Expression.Writing
import FileSearch.Proofs.Json.Layout
import FileSearch.Proofs.Json.Nesting
import FileSearch.Proofs.Json.Numeral
import FileSearch.Proofs.Json.Reading
import FileSearch.Proofs.Json.Record
import FileSearch.Proofs.Json.Sequence
import FileSearch.Proofs.Json.Spelling
import FileSearch.Proofs.Json.Text
import FileSearch.Proofs.Json.Value
import FileSearch.Proofs.Json.Writing
import FileSearch.Proofs.Phrase.Basic
import FileSearch.Proofs.Phrase.Meaning
import FileSearch.Proofs.Phrase.Reading
import FileSearch.Proofs.Query.Atom
import FileSearch.Proofs.Query.Basic
import FileSearch.Proofs.Query.Content
import FileSearch.Proofs.Query.Dangling
import FileSearch.Proofs.Query.Operator
import FileSearch.Proofs.Query.Parser
import FileSearch.Proofs.Recording
import FileSearch.Proofs.Session
import FileSearch.Proofs.Summary
import FileSearch.Proofs.Text.Alignment
import FileSearch.Proofs.Text.Balance
import FileSearch.Proofs.Text.Escape
import FileSearch.Proofs.Text.Readback
import FileSearch.Proofs.Text.Stripping
import FileSearch.Proofs.Text.Symbol
import FileSearch.Proofs.WrittenForm
