import QueryTree.CommandLine.Invocation
import QueryTree.Config.Basic
import QueryTree.Config.File
import QueryTree.SavedQuery.Import
import QueryTree.Schema.Document.Stored

/-! Running commands. A command reads the files it names, and everything it writes is known when it
is done, so a command that fails writes nothing. The configuration is read first, whether the
command needs it or not.
-/

namespace QueryTree.CommandLine

/-- What is found under a path. -/
inductive FileContent where
  | missing
  /-- A file whose content is no text. -/
  | unreadable
  | text (content : String)

/-- What a command can see: files by path, and variables of the environment by name. -/
structure Workspace where
  file : String → FileContent
  environment : String → Option String

/-- The text of a file. -/
def Workspace.read? (workspace : Workspace) (path : String) : Option String :=
  match workspace.file path with
  | .text content => some content
  | .missing | .unreadable => none

/-- Whether there is a file. -/
def Workspace.hasFile (workspace : Workspace) (path : String) : Bool :=
  match workspace.file path with
  | .missing => false
  | .unreadable | .text _ => true

/-- A reason for a command to fail. -/
inductive Failure where
  | usage (fault : UsageFault)
  | unreadableConfig (path : String)
  | config (fault : ConfigFault)
  | unreadableFile (path : String)
  | invalidSubject (subject : String)
  | schema (fault : Schema.ReadFault)
  | saved (fault : ImportFault)
  | compile (fault : CompileFault)
  | noDefault (type : String) (kind : Option ExpressionKind)

namespace Failure

/-- The exit code of a program that fails. -/
def exitCode : Failure → Nat
  | .usage fault => fault.exitCode
  | _ => 1

/-- The wording of a failure, where it has one of its own. -/
def message? : Failure → Option String
  | .usage _ | .unreadableConfig _ | .unreadableFile _ => none
  | .config fault => fault.message?
  | .invalidSubject subject => some ("subject '" ++ subject ++ "' is not an identifier")
  | .schema (.unreadable _) => none
  | .schema (.refused fault) => some ("invalid schema document: " ++ fault.message)
  | .saved fault => fault.message?
  | .compile fault => some fault.message
  | .noDefault type kind =>
      some ("type '" ++ type ++ "' has no default "
        ++ (kind.map ExpressionKind.token).getD "expression" ++ " expression")

end Failure

/-- The configuration file that is read where none is named. -/
def localConfigPath : String := "policyql.toml"

namespace Invocation

/-- The path of the configuration file, if there is one to read. -/
def configPath? (invocation : Invocation) (workspace : Workspace) : Option String :=
  match invocation.config with
  | some path => some path
  | none => if workspace.hasFile localConfigPath then some localConfigPath else none

/-- The configuration of the file, if there is one to read. -/
def fileConfig (invocation : Invocation) (workspace : Workspace) : Except Failure Config :=
  match invocation.configPath? workspace with
  | none => .ok .standard
  | some path =>
      match workspace.read? path with
      | none => .error (.unreadableConfig path)
      | some text => (Config.ofText text).mapError .config

/-- The configuration that a command runs with. -/
def resolveConfig (invocation : Invocation) (workspace : Workspace) : Except Failure Config :=
  match invocation.fileConfig workspace with
  | .error failure => .error failure
  | .ok config => (config.withOverrides workspace.environment).mapError .config

/-- The paths of all files that a command may read. -/
def paths (invocation : Invocation) : List String :=
  invocation.config.getD localConfigPath ::
    match invocation.command with
    | .compile schema query _ _ => [schema, query]
    | .default schema _ _ => [schema]
    | .operators _ => []

end Invocation

namespace Command

/-- The text of a file that a command needs. -/
def readText (workspace : Workspace) (path : String) : Except Failure String :=
  match workspace.read? path with
  | some text => .ok text
  | none => .error (.unreadableFile path)

/-- The schema of a file that a command needs. -/
def readSchema (workspace : Workspace) (path : String) : Except Failure Schema := do
  (Schema.ofText (← readText workspace path)).mapError .schema

/-- The code of a saved query on a line, and its fingerprint on another if it is asked for. -/
def compileText (workspace : Workspace) (config : Config) (schema query subject : String)
    (fingerprint : Bool)
    : Except Failure String := do
  if !Text.isIdentifier subject then .error (.invalidSubject subject)
  else
    let compiler : Compiler := ⟨← readSchema workspace schema, config.maxDepth⟩
    let text ← readText workspace query
    let saved ← (SavedQuery.ofText compiler text).mapError .saved
    let compiled ← (saved.compile compiler subject).mapError .compile
    return compiled.code ++ "\n" ++ if fingerprint then compiled.fingerprint ++ "\n" else ""

/-- The default expression of a type as an indented document. -/
def defaultText (workspace : Workspace) (schema type : String) (kind : Option ExpressionKind)
    : Except Failure String := do
  let schema ← readSchema workspace schema
  let found :=
    match kind with
    | none => schema.defaultExpression type
    | some kind => schema.defaultExpressionOfKind type kind
  match ← found.mapError .compile with
  | none => .error (.noDefault type kind)
  | some expression => return expression.toJson.write .indented ++ "\n"

/-- An operator on a line: its token, what it is called, and the data type of its operand. -/
def operatorLine (dataType : DataType) (entry : OperatorEntry) : String :=
  entry.operator.token ++ "\t" ++ entry.displayName ++ "\t"
    ++ (entry.operandTypeFor dataType).token ++ "\n"

/-- The operators of a data type, one a line. -/
def operatorsText (dataType : DataType) : String :=
  String.join (dataType.operators.map (operatorLine dataType))

/-- What a command writes. -/
def run (command : Command) (config : Config) (workspace : Workspace) : Except Failure String :=
  match command with
  | .compile schema query subject fingerprint =>
      compileText workspace config schema query (subject.getD config.defaultSubject) fingerprint
  | .default schema type kind => defaultText workspace schema type kind
  | .operators dataType => .ok (operatorsText dataType)

end Command

/-- What an invocation writes. -/
def Invocation.run (invocation : Invocation) (workspace : Workspace) : Except Failure String :=
  match invocation.resolveConfig workspace with
  | .error failure => .error failure
  | .ok config => invocation.command.run config workspace

/-- What the program writes for its arguments. -/
def run (workspace : Workspace) (texts : List String) : Except Failure String :=
  match Invocation.ofArguments (workspace.environment configVariableName) texts with
  | .error fault => .error (.usage fault)
  | .ok invocation => invocation.run workspace

end QueryTree.CommandLine
