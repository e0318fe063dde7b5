import QueryTree.Compile.Basic
import QueryTree.Json.Number
import QueryTree.Text

/-! Configurations: how deep queries may nest, the subject they are compiled for, and what is
logged. A configuration is checked whenever it has been put together, the depth before the subject.
Variables override it: one that is not set changes nothing, and the configuration is checked again
afterwards, so what it was before must be in order already.
-/

namespace QueryTree

/-- A configuration. -/
structure Config where
  maxDepth : Nat
  defaultSubject : String
  logFilter : String
deriving DecidableEq

/-- What is wrong with a configuration. -/
inductive ConfigFault where
  /-- The text is not a configuration. -/
  | malformed
  /-- The depth given from outside is no number. -/
  | depthNotWhole (value : String)
  | depthOutOfRange (depth : Nat)
  | invalidSubject (subject : String)
deriving DecidableEq

namespace Config

/-- The configuration where nothing is said. -/
def standard : Config :=
  { maxDepth := defaultMaxDepth
    defaultSubject := QueryTree.defaultSubject
    logFilter := "policyql=info" }

/-- The greatest depth that can be configured. -/
def maxDepthLimit : Nat := 4096

/-- The variable that overrides the depth. -/
def maxDepthVariable : String := "POLICYQL_MAX_DEPTH"

/-- The variable that overrides the subject. -/
def defaultSubjectVariable : String := "POLICYQL_DEFAULT_SUBJECT"

/-- The variable that overrides the log filter. -/
def logFilterVariable : String := "POLICYQL_LOG"

/-- The first fault of a configuration. -/
def fault? (config : Config) : Option ConfigFault :=
  if config.maxDepth < 1 ∨ maxDepthLimit < config.maxDepth then
    some (.depthOutOfRange config.maxDepth)
  else if !Text.isIdentifier config.defaultSubject then
    some (.invalidSubject config.defaultSubject)
  else none

/-- A configuration, if it has no fault. -/
def check (config : Config) : Except ConfigFault Config :=
  match config.fault? with
  | some fault => .error fault
  | none => .ok config

/-- The natural number of at most 64 bits that a text stands for: digits, with a plus or without,
between blanks.
-/
def wholeNumber? (text : String) : Option Nat :=
  let trimmed := Text.trim text.toList
  let digits := if trimmed.head? = some '+' then trimmed.tail else trimmed
  if digits.isEmpty || !digits.all Char.isDigit then none
  else (some (Json.Number.ofDigits digits)).filter (· ≤ Json.Number.maxUnsigned)

/-- Replaces the depth by the number that a variable holds. -/
def withDepth (config : Config) : Option String → Except ConfigFault Config
  | none => .ok config
  | some value =>
      match wholeNumber? value with
      | some maxDepth => .ok { config with maxDepth }
      | none => .error (.depthNotWhole value)

/-- The configuration with the values of the variables that are set. -/
def withOverrides (config : Config) (environment : String → Option String)
    : Except ConfigFault Config :=
  match config.withDepth (environment maxDepthVariable) with
  | .error fault => .error fault
  | .ok config =>
      let changed : Config :=
        { config with
          defaultSubject := (environment defaultSubjectVariable).getD config.defaultSubject
          logFilter := (environment logFilterVariable).getD config.logFilter }
      changed.check

end Config

namespace ConfigFault

/-- The name of the setting that a fault is about, and what is wrong with its value. -/
def setting? : ConfigFault → Option (String × String)
  | .malformed => none
  | .depthNotWhole value =>
      some (Config.maxDepthVariable, "'" ++ value ++ "' is not a whole number")
  | .depthOutOfRange depth =>
      some ("compiler.max_depth",
        toString depth ++ " is outside 1..=" ++ toString Config.maxDepthLimit)
  | .invalidSubject subject =>
      some ("compiler.default_subject", "'" ++ subject ++ "' is not an identifier")

/-- The wording of a fault; a malformed text has none of its own. -/
def message? (fault : ConfigFault) : Option String :=
  fault.setting?.map fun setting => "invalid value for " ++ setting.1 ++ ": " ++ setting.2

end ConfigFault

end QueryTree
