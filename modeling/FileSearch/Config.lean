/-
This file reads the configuration of the command line.
-/

import FileSearch.Scope

namespace FileSearch

/-- A configuration has the scope for restricted queries and the level of the log. -/
structure Config where
  scope : Scope
  logLevel : String
  deriving DecidableEq

/-- This type tells what is found at a path. -/
inductive FileState where
  | missing
  | directory
  | file (bytes : ByteArray)

/-- This type lists the causes for refusing a configuration file. -/
inductive ConfigError where
  | notFound (path : String)
  | isDirectory (path : String)
  | notText (path : String)
  | malformed (path : String) (fault : Json.Fault)

def ConfigError.message : ConfigError → String
  | .notFound path => s!"配置文件不存在: {path}"
  | .isDirectory path => s!"无法读取配置文件 {path}: Is a directory (os error 21)"
  | .notText path => s!"无法读取配置文件 {path}: stream did not contain valid UTF-8"
  | .malformed path fault => s!"无法解析JSON配置文件 {path}: {fault.message}"

namespace Config

def standard : Config := ⟨Scope.standard, "info"⟩

def toJson (config : Config) : Json :=
  .object [("scope", config.scope.toJson), ("logLevel", .string config.logLevel)]

open Json.Reader in
/-- Both members can be missing, and other members are passed over. -/
def form : Json.Form Config where
  title := "struct CompilerConfig"
  members := [
    ⟨"scope", do
      let entry ← record Scope.form
      return fun config => { config with scope := entry }⟩,
    ⟨"logLevel", do
      let entry ← text
      return fun config => { config with logLevel := entry }⟩]
  strays := .skimmed
  empty := standard

def ofText? (text : String) : Except Json.Fault Config :=
  (Json.Reader.record form).readText text

/-- A configuration file holds a JSON text in UTF-8. -/
def ofFile? (path : String) : FileState → Except ConfigError Config
  | .missing => .error (.notFound path)
  | .directory => .error (.isDirectory path)
  | .file bytes =>
    match String.fromUTF8? bytes with
    | none => .error (.notText path)
    | some text => (ofText? text).mapError (.malformed path)

/-- A file that is refused leaves the standard configuration. -/
def ofFile (path : String) (state : FileState) : Config :=
  (ofFile? path state).toOption.getD standard

/-- This path is used when no other one is set. -/
def standardPath : String := "drive_query.json"

/-- This environment variable sets the path. -/
def pathVariable : String := "DRIVE_QUERY_CONFIG"

/-- A path that is set is used when it is a text, even an empty one. -/
def path (setting : Option ByteArray) : String :=
  (setting.bind String.fromUTF8?).getD standardPath

end Config

end FileSearch
