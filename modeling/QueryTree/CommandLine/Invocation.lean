import QueryTree.CommandLine.Argument

/-! Command lines. The options of the program stand before the command, those of a command behind
it, and the arguments of the command are read to their end before the program's own are settled.
-/

namespace QueryTree.CommandLine

/-- What the program is asked to do. -/
inductive Command where
  /-- Compile a saved query. -/
  | compile (schema query : String) (subject : Option String) (fingerprint : Bool)
  /-- Show the default expression of a type. -/
  | default (schema type : String) (kind : Option ExpressionKind)
  /-- List the operators of a data type. -/
  | operators (dataType : DataType)
deriving DecidableEq

/-- A command, and the path of the configuration file, if one is named. -/
structure Invocation where
  command : Command
  config : Option String
deriving DecidableEq

/-- The variable that names the configuration file. -/
def configVariableName : String := "POLICYQL_CONFIG"

/-- The word of a vocabulary that a parameter holds. -/
def Arguments.word? {α : Type} [Vocabulary α] (arguments : Arguments) (parameter : Parameter)
    : Option α :=
  (arguments.value? parameter).bind Vocabulary.find?

/-- The command with its arguments, if none that it needs is missing. -/
def Command.ofArguments? (name : CommandName) (arguments : Arguments) : Option Command :=
  match name with
  | .compile =>
      match arguments.value? .schema, arguments.value? .query with
      | some schema, some query =>
          some (.compile schema query (arguments.value? .subject) (arguments.has .fingerprint))
      | _, _ => none
  | .default =>
      match arguments.value? .schema, arguments.value? .type with
      | some schema, some type => some (.default schema type (arguments.word? .kind))
      | _, _ => none
  | .operators => (arguments.word? .dataType).map Command.operators

namespace Invocation

/-- Reads the arguments of a command, all that are left. -/
def readCommand (configVariable : Option String) (name : CommandName) (texts : List String)
    : Except UsageFault Invocation := do
  let arguments ← texts.foldlM (Arguments.take (.command name)) .start
  let arguments ← arguments.finish configVariable
  match Command.ofArguments? name arguments with
  | some command => return ⟨command, arguments.value? .config⟩
  | none => .error .missingRequiredArgument

/-- What a question for help about the commands that follow ends with. -/
def helpFault : List String → UsageFault
  | [] => .displayHelp
  | [text] => if isSubcommand text then .displayHelp else .invalidSubcommand
  | _ => .invalidSubcommand

/-- The fault of a command line without a command. -/
def commandlessFault (arguments : Arguments) (configVariable : Option String) : UsageFault :=
  if arguments.given.isEmpty && configVariable.isNone then .nothingGiven else .missingSubcommand

/-- Reads the program's own arguments up to the command. -/
def readProgram (configVariable : Option String) (arguments : Arguments)
    : List String → Except UsageFault Invocation
  | [] => do .error (commandlessFault (← arguments.finish configVariable) configVariable)
  | text :: texts =>
      if arguments.trailing || arguments.awaiting then
        match arguments.take .program text with
        | .error fault => .error fault
        | .ok arguments => readProgram configVariable arguments texts
      else if text = helpToken then .error (helpFault texts)
      else
        match CommandName.ofText? text with
        | some name => do
            let invocation ← readCommand configVariable name texts
            let arguments ← arguments.finish configVariable
            return { invocation with
              config := (invocation.config.or (arguments.value? .config)).or configVariable }
        | none =>
            match arguments.take .program text with
            | .error fault => .error fault
            | .ok arguments => readProgram configVariable arguments texts

/-- Reads a command line. -/
def ofArguments (configVariable : Option String) (texts : List String)
    : Except UsageFault Invocation :=
  readProgram configVariable .start texts

end Invocation

end QueryTree.CommandLine
