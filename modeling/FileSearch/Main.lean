/-
This file runs an interactive session on the standard input and output.
-/

import FileSearch.Config
import FileSearch.Session

namespace FileSearch

/-- This function looks at a path. -/
def fileState (path : String) : IO FileState := do
  try
    return .file (← IO.FS.readBinFile path)
  catch found =>
    match found with
    | .noFileOrDirectory .. => return .missing
    | _ => return .directory

/-- This function answers lines until one ends the session or none is left. -/
partial def converse (session : Session) : IO Session.Outcome := do
  let output ← IO.getStdout
  output.putStr session.prompt
  output.flush
  match Text.lines (← (← IO.getStdin).getLine).toList with
  | [] => return .finished
  | line :: _ =>
    match Session.readLine? line with
    | none => return .unreadable
    | some text =>
      match session.step (Session.Command.ofLine text) with
      | none => return .finished
      | some (answer, next) =>
        output.putStr answer
        converse next

end FileSearch

open FileSearch in
/-- The configuration is read from the path in the environment. -/
def main : IO UInt32 := do
  let setting ← IO.getEnv Config.pathVariable
  let path := Config.path (setting.map String.toUTF8)
  let config := Config.ofFile path (← fileState path)
  IO.print Session.banner
  let outcome ← converse (Session.start config.scope)
  return outcome.exitCode.toUInt32
