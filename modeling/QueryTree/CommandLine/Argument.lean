import QueryTree.Expression.Kind
import QueryTree.Operator.Basic

/-! Reading the arguments of one command. Arguments are read from left to right. An option that
waits for its value, and a value that has just been read, are held back until the next argument
settles them, so what is wrong with a value is found out only then. After a `--` all arguments are
positional. Asking for help or for the version also ends the reading, and is not an error.
-/

namespace QueryTree

/-- A reason to stop reading arguments. -/
inductive UsageFault where
  | displayHelp
  | displayVersion
  /-- There are no arguments at all. -/
  | nothingGiven
  | missingSubcommand
  | invalidSubcommand
  | missingRequiredArgument
  | unknownArgument
  /-- A value that is not there, or an empty path. -/
  | invalidValue
  /-- A value that is none of the words it must be one of. -/
  | valueValidation
  /-- An argument that is given twice. -/
  | argumentConflict
  /-- A value for an argument that takes none. -/
  | tooManyValues
deriving DecidableEq

/-- The exit code of a program that stops for this reason. -/
def UsageFault.exitCode : UsageFault → Nat
  | .displayHelp | .displayVersion => 0
  | .nothingGiven | .missingSubcommand | .invalidSubcommand | .missingRequiredArgument
  | .unknownArgument | .invalidValue | .valueValidation | .argumentConflict | .tooManyValues => 2

namespace CommandLine

/-- The parameters of all commands. -/
inductive Parameter where
  | config
  | schema
  | query
  | subject
  | fingerprint
  | type
  | kind
  | dataType
deriving DecidableEq

/-- What a parameter takes. -/
inductive Form where
  /-- Nothing: it is there or not. -/
  | switch
  /-- The path of a file, which is not empty. -/
  | path
  /-- Any text. -/
  | text
  /-- One of some words. -/
  | word (accepts : String → Bool)

/-- What each parameter takes. -/
def Parameter.form : Parameter → Form
  | .config | .schema | .query => .path
  | .subject | .type => .text
  | .fingerprint => .switch
  | .kind => .word fun text => (Vocabulary.find? text : Option ExpressionKind).isSome
  | .dataType => .word fun text => (Vocabulary.find? text : Option DataType).isSome

/-- The name of the option that gives a parameter. -/
def Parameter.name : Parameter → String
  | .config => "config"
  | .schema => "schema"
  | .query => "query"
  | .subject => "subject"
  | .fingerprint => "fingerprint"
  | .type => "type"
  | .kind => "kind"
  | .dataType => "data-type"

/-- The commands. -/
inductive CommandName where
  | compile
  | default
  | operators
deriving DecidableEq

/-- The word for a command. -/
def CommandName.token : CommandName → String
  | .compile => "compile"
  | .default => "default"
  | .operators => "operators"

/-- The command with a given word. -/
def CommandName.ofText? (text : String) : Option CommandName :=
  [CommandName.compile, .default, .operators].find? fun name => name.token == text

/-- The word that asks for help. -/
def helpToken : String := "help"

/-- Whether a text is the word for a command or for help. -/
def isSubcommand (text : String) : Bool :=
  (CommandName.ofText? text).isSome || text == helpToken

/-- What arguments are read for: the program itself, or one of its commands. -/
inductive Scope where
  | program
  | command (name : CommandName)
deriving DecidableEq

/-- The options of a scope. -/
def Scope.options : Scope → List Parameter
  | .program => [.config]
  | .command .compile => [.config, .schema, .query, .subject, .fingerprint]
  | .command .default => [.config, .schema, .type, .kind]
  | .command .operators => [.config]

/-- The positional parameter of a scope. -/
def Scope.positional? : Scope → Option Parameter
  | .command .operators => some .dataType
  | .program | .command .compile | .command .default => none

/-- What an argument looks like. -/
inductive ArgumentShape where
  /-- A `--` by itself. -/
  | separator
  /-- A name after `--`, and the value after its `=`, if there is one. -/
  | long (name : String) (value : Option String)
  /-- A letter after a dash, whatever follows it. -/
  | short (letter : Char)
  /-- Anything else, a dash by itself included. -/
  | plain

/-- What a text looks like as an argument. -/
def ArgumentShape.ofText (text : String) : ArgumentShape :=
  match text.toList with
  | ['-', '-'] => .separator
  | '-' :: '-' :: body =>
      let value :=
        match body.dropWhile (· ≠ '=') with
        | [] => none
        | _ :: value => some (String.ofList value)
      .long (String.ofList (body.takeWhile (· ≠ '='))) value
  | '-' :: letter :: _ => .short letter
  | _ => .plain

/-- The arguments of a scope as far as they have been read. -/
structure Arguments where
  /-- The parameters that are settled, with their values. -/
  given : List (Parameter × String)
  /-- The parameter that is not settled yet, with its value if that has been read. -/
  pending : Option (Parameter × Option String)
  /-- Whether a `--` has been read. -/
  trailing : Bool
  /-- Whether the positional parameter has been read. -/
  placed : Bool

namespace Arguments

/-- No argument read yet. -/
def start : Arguments := ⟨[], none, false, false⟩

/-- The value of a parameter. -/
def value? (arguments : Arguments) (parameter : Parameter) : Option String :=
  (arguments.given.find? fun entry => entry.1 = parameter).map Prod.snd

/-- Whether a parameter is given. -/
def has (arguments : Arguments) (parameter : Parameter) : Bool :=
  (arguments.value? parameter).isSome

/-- Whether the next argument may be the value of an option. -/
def awaiting (arguments : Arguments) : Bool :=
  match arguments.pending with
  | some (_, none) => true
  | _ => false

/-- What is wrong with a value for a parameter. -/
def valueFault? (parameter : Parameter) (value : String) : Option UsageFault :=
  match parameter.form with
  | .switch | .text => none
  | .path => if value.isEmpty then some .invalidValue else none
  | .word accepts => if accepts value then none else some .valueValidation

/-- Gives a parameter a value; it must not have one yet. -/
def give (arguments : Arguments) (parameter : Parameter) (value : String)
    : Except UsageFault Arguments :=
  if arguments.has parameter then .error .argumentConflict
  else
    match valueFault? parameter value with
    | some fault => .error fault
    | none => .ok { arguments with given := arguments.given ++ [(parameter, value)] }

/-- Settles the parameter that is pending. -/
def settle (arguments : Arguments) : Except UsageFault Arguments :=
  match arguments.pending with
  | none => .ok arguments
  | some (_, none) => .error .invalidValue
  | some (parameter, some value) => give { arguments with pending := none } parameter value

/-- Settles what is pending and stops. -/
def stop (arguments : Arguments) (fault : UsageFault) : Except UsageFault Arguments :=
  match arguments.settle with
  | .error fault => .error fault
  | .ok _ => .error fault

/-- Reads an option by its name. -/
def takeLong (scope : Scope) (arguments : Arguments) (name : String) (value : Option String)
    : Except UsageFault Arguments :=
  if name = helpToken then
    if value.isSome then .error .tooManyValues else arguments.stop .displayHelp
  else if name = "version" ∧ scope = .program then
    if value.isSome then .error .tooManyValues else arguments.stop .displayVersion
  else
    match scope.options.find? fun parameter => parameter.name == name with
    | none => .error .unknownArgument
    | some parameter =>
        match parameter.form, value with
        | .switch, some _ => .error .tooManyValues
        | .switch, none => do (← arguments.settle).give parameter ""
        | _, some value => do (← arguments.settle).give parameter value
        | _, none => do
            let settled ← arguments.settle
            return { settled with pending := some (parameter, none) }

/-- Reads an option by its letter. -/
def takeShort (scope : Scope) (arguments : Arguments) (letter : Char)
    : Except UsageFault Arguments :=
  if letter = 'h' then arguments.stop .displayHelp
  else if letter = 'V' ∧ scope = .program then arguments.stop .displayVersion
  else .error .unknownArgument

/-- The fault of a positional argument that has no place. -/
def misplaced (scope : Scope) (arguments : Arguments) (text : String) : UsageFault :=
  match scope with
  | .command _ => .unknownArgument
  | .program =>
      if arguments.trailing && isSubcommand text then .unknownArgument else .invalidSubcommand

/-- Reads a positional argument. -/
def takePositional (scope : Scope) (arguments : Arguments) (text : String)
    : Except UsageFault Arguments :=
  match scope.positional?, arguments.placed with
  | some parameter, false => do
      let settled ← arguments.settle
      return { settled with pending := some (parameter, some text), placed := true }
  | _, _ => .error (misplaced scope arguments text)

/-- Reads one argument. -/
def take (scope : Scope) (arguments : Arguments) (text : String)
    : Except UsageFault Arguments :=
  if arguments.trailing then arguments.takePositional scope text
  else
    match ArgumentShape.ofText text with
    | .separator => .ok { arguments with trailing := true }
    | .long name value => arguments.takeLong scope name value
    | .short letter => arguments.takeShort scope letter
    | .plain =>
        match arguments.pending with
        | some (parameter, none) =>
            .ok { arguments with pending := some (parameter, some text) }
        | _ => arguments.takePositional scope text

/-- Settles the last argument. The path of the configuration may also come from a variable, which
must not be empty where it counts.
-/
def finish (arguments : Arguments) (configVariable : Option String)
    : Except UsageFault Arguments := do
  let settled ← arguments.settle
  if !settled.has .config && configVariable = some "" then .error .invalidValue
  else return settled

end Arguments

end CommandLine

end QueryTree
