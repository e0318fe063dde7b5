import QueryTree.CommandLine.Run

/-! The program. It looks up the variables and reads the files that its arguments name, and writes
what comes out of them to the standard output. The reason of a failure goes to the standard error.
-/

namespace QueryTree.CommandLine

/-- How the program is called. -/
def usageText : String :=
  "Usage: policyql [--config FILE] COMMAND\n\nCommands:\n"
    ++ "  compile --schema FILE --query FILE [--subject NAME] [--fingerprint]\n"
    ++ "  default --schema FILE --type TYPE [--kind KIND]\n"
    ++ "  operators DATA_TYPE\n"

/-- The name and the version of the program. -/
def versionText : String := "policyql 0.4.0\n"

/-- The variables that the program looks at. -/
def variableNames : List String :=
  [configVariableName, Config.maxDepthVariable, Config.defaultSubjectVariable,
    Config.logFilterVariable]

/-- What is found under a path; a directory is no file. -/
def readFile (path : String) : IO FileContent := do
  try
    match String.fromUTF8? (← IO.FS.readBinFile path) with
    | some content => return .text content
    | none => return .unreadable
  catch
    | .noFileOrDirectory .. | .inappropriateType .. => return .missing
    | _ => return .unreadable

/-- What is told about a failure that has no wording of its own. -/
def fallbackText : Failure → String
  | .unreadableConfig path => "cannot read config file '" ++ path ++ "'"
  | .unreadableFile path => "cannot read '" ++ path ++ "'"
  | .config _ => "invalid config file"
  | .schema _ => "invalid schema document"
  | _ => "invalid query document"

/-- Tells why the program stops, and stops. -/
def report (failure : Failure) : IO UInt32 := do
  match failure with
  | .usage .displayHelp => IO.print usageText
  | .usage .displayVersion => IO.print versionText
  | .usage _ => IO.eprint usageText
  | failure => IO.eprintln (failure.message?.getD (fallbackText failure))
  return failure.exitCode.toUInt32

/-- Looks a name up in a list. -/
def lookUp {α : Type} (entries : List (String × α)) (name : String) : Option α :=
  (entries.find? fun entry => entry.1 == name).map Prod.snd

/-- Runs the program. -/
def runProgram (texts : List String) : IO UInt32 := do
  let settings ← variableNames.filterMapM fun name => do
    return (← IO.getEnv name).map fun value => (name, value)
  match Invocation.ofArguments (lookUp settings configVariableName) texts with
  | .error fault => report (.usage fault)
  | .ok invocation =>
      let files ← invocation.paths.mapM fun path => do return (path, ← readFile path)
      let workspace : Workspace :=
        { file := fun path => (lookUp files path).getD .missing
          environment := lookUp settings }
      match invocation.run workspace with
      | .ok output =>
          IO.print output
          return 0
      | .error failure => report failure

end QueryTree.CommandLine

def main (texts : List String) : IO UInt32 :=
  QueryTree.CommandLine.runProgram texts
