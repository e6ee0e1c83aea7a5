/-
This file answers the lines of an interactive session.
-/

import FileSearch.Expression.OfText
import FileSearch.Scope
import FileSearch.Text.Erasure
import FileSearch.Text.Lines

namespace FileSearch

/-- A line is refused when it is no expression or when its expression is refused. -/
inductive QueryError where
  | malformed (malformed : Expression.Malformed)
  | violation (violation : Violation)

/-- The detail of a malformed text is given again as the cause of its message. -/
def QueryError.report : QueryError → String
  | .malformed cause => s!"{cause.message}: {cause.detail}"
  | .violation found => found.message

/-- A session has a scope and applies it or leaves it out. -/
structure Session where
  scope : Scope
  restricted : Bool

namespace Session

def start (scope : Scope) : Session := ⟨scope, false⟩

def banner : String := "--- drive_query: 查询表达式编译器 (:help 查看帮助) ---\n"

def prompt (session : Session) : String :=
  if session.restricted then "query[scoped]> " else "query> "

def help : String :=
  "输入一行 JSON 查询表达式进行编译, 例如:\n" ++
  "  \x7b\"$or\": [\x7b\"name\": \x7b\"any\": [\"budget\"]\x7d\x7d, " ++
  "\x7b\"starred\": true\x7d]\x7d\n" ++
  "命令:\n" ++
  "  :scope  切换是否追加配置的文件夹/回收站条件\n" ++
  "  :help   显示帮助\n" ++
  "  :quit   退出\n"

/-- This notice tells whether the scope is applied from now on. -/
def scopeNotice (restricted : Bool) : String :=
  "作用域条件: " ++ (if restricted then "开启" else "关闭") ++ "\n"

/-- This type lists what a line can ask for. -/
inductive Command where
  | nothing
  | quit
  | help
  | toggleScope
  | compile (text : String)
  deriving DecidableEq

/-- White space around a line does not count. -/
def Command.ofLine (line : String) : Command :=
  match String.ofList (Text.trim line.toList) with
  | "" => .nothing
  | ":quit" => .quit
  | ":q" => .quit
  | ":help" => .help
  | ":scope" => .toggleScope
  | text => .compile text

/-- This function compiles the text of a line. -/
def compileText (session : Session) (text : String) : Except QueryError Compiled := do
  let expression ← (Expression.ofText? text).mapError .malformed
  (if session.restricted then expression.compileWithin session.scope
    else expression.compile).mapError .violation

/-- The compiled form or the error of a text is shown on lines of its own. -/
def answer (session : Session) (text : String) : String :=
  match session.compileText text with
  | .ok compiled => compiled.toJson.pretty ++ "\n"
  | .error error => "✗ " ++ error.report ++ "\n"

/-- A command gives an output and the session that goes on, or ends the session. -/
def step (session : Session) : Command → Option (String × Session)
  | .nothing => some ("", session)
  | .quit => none
  | .help => some (help, session)
  | .toggleScope =>
    let toggled := { session with restricted := !session.restricted }
    some (scopeNotice toggled.restricted, toggled)
  | .compile text => some (session.answer text, session)

/-- The prompt is shown before every line and at the end of the input. -/
def outputs (session : Session) : List String → List String
  | [] => [session.prompt]
  | line :: lines =>
    match session.step (Command.ofLine line) with
    | none => [session.prompt]
    | some (output, next) => session.prompt :: output :: next.outputs lines

/-- A line is read as its backspaces leave it. -/
def readLine? (line : List Char) : Option String :=
  (Text.erased? line).map String.ofList

/-- No line is read behind one that cannot be read. -/
def readLines (input : String) : List String :=
  (((Text.lines input.toList).map readLine?).takeWhile Option.isSome).filterMap id

/-- This is the whole output for the given input. -/
def transcript (scope : Scope) (input : String) : String :=
  banner ++ String.join ((start scope).outputs (readLines input))

/-- A session ends in order, or at a line that cannot be read. -/
inductive Outcome where
  | finished
  | unreadable
  deriving DecidableEq

def Outcome.exitCode : Outcome → Nat
  | .finished => 0
  | .unreadable => 101

/-- A line behind the one that ends the session does no harm. -/
def outcome (input : String) : Outcome :=
  if (readLines input).any (Command.ofLine · = .quit) then .finished
  else if ((Text.lines input.toList).map readLine?).all Option.isSome then .finished
  else .unreadable

end Session

end FileSearch
