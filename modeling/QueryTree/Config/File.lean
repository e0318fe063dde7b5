import QueryTree.Config.Basic
import QueryTree.Json.Number
import QueryTree.Toml.Document

/-! Configuration files. A file has two sections, each of which is given in one way: by a header
with its keys below, by dotted keys, or as one value. That value is an inline table, or an array of
the settings in their order, of which the last may be left out. Keys that are not known are refused.
-/

namespace QueryTree.Config

/-- The sections of a file. -/
inductive Section where
  | compiler
  | log
deriving DecidableEq

/-- The settings of a file. -/
inductive Setting where
  | maxDepth
  | defaultSubject
  | logFilter
deriving DecidableEq

/-- The name of a section. -/
def Section.name : Section → String
  | .compiler => "compiler"
  | .log => "log"

/-- The section called `name`. -/
def Section.ofName? (name : String) : Option Section :=
  [Section.compiler, .log].find? fun part => part.name == name

/-- The settings of a section, in order. -/
def Section.settings : Section → List Setting
  | .compiler => [.maxDepth, .defaultSubject]
  | .log => [.logFilter]

/-- The key of a setting in its section. -/
def Setting.key : Setting → String
  | .maxDepth => "max_depth"
  | .defaultSubject => "default_subject"
  | .logFilter => "filter"

/-- The setting of a section with a given key. -/
def Section.setting? (part : Section) (key : String) : Option Setting :=
  part.settings.find? fun setting => setting.key == key

/-- Puts the value of a setting into a configuration, if it is of the right type. -/
def Setting.put? (setting : Setting) (value : Toml.Value) (config : Config) : Option Config :=
  match setting, value with
  | .maxDepth, .integer value =>
      if 0 ≤ value ∧ value ≤ Json.Number.maxUnsigned then
        some { config with maxDepth := value.toNat }
      else none
  | .defaultSubject, .text value => some { config with defaultSubject := value }
  | .logFilter, .text value => some { config with logFilter := value }
  | _, _ => none

/-- Puts values into the settings of a list, one by one, as far as there are both. -/
def putItems? : List Setting → List Toml.Value → Config → Option Config
  | setting :: settings, value :: values, config =>
      (setting.put? value config).bind (putItems? settings values)
  | [], _, config | _, [], config => some config

/-- Puts the fields of a table into the settings of a section. -/
def Section.putFields? (part : Section) : Toml.Fields → Config → Option Config
  | [], config => some config
  | ([key], value) :: fields, config =>
      match part.setting? key with
      | some setting => (setting.put? value config).bind (part.putFields? fields)
      | none => none
  | _ :: _, _ => none

/-- Puts a section that is given as one value into a configuration. -/
def Section.put? (part : Section) (value : Toml.Value) (config : Config) : Option Config :=
  match value with
  | .table fields => part.putFields? fields config
  | .array items => putItems? part.settings items config
  | _ => none

/-- What the statements so far have given. -/
structure Progress where
  config : Config
  /-- The section of the last header. -/
  current : Option Section
  /-- The sections given by a header or as one value. -/
  sections : List Section
  /-- The settings given by keys of their own. -/
  settings : List Setting

namespace Progress

/-- No statement yet. -/
def start : Progress := ⟨standard, none, [], []⟩

/-- The section called `name`, if nothing in it has been given. -/
def untouched? (progress : Progress) (name : String) : Option Section :=
  match Section.ofName? name with
  | none => none
  | some part =>
      if progress.sections.contains part || part.settings.any progress.settings.contains then none
      else some part

/-- Gives a setting of a section by its key. -/
def give? (progress : Progress) (part : Section) (key : String) (value : Toml.Value)
    : Option Progress :=
  match part.setting? key with
  | none => none
  | some setting =>
      if progress.settings.contains setting then none
      else
        (setting.put? value progress.config).map fun config =>
          { progress with config, settings := setting :: progress.settings }

/-- Reads one statement. -/
def step? (progress : Progress) : Toml.Statement → Option Progress
  | .header [name] =>
      (progress.untouched? name).map fun part =>
        { progress with current := some part, sections := part :: progress.sections }
  | .header _ | .listHeader _ => none
  | .assign path value =>
      match progress.current, path with
      | some part, [key] => progress.give? part key value
      | none, [name, key] =>
          match Section.ofName? name with
          | none => none
          | some part =>
              if progress.sections.contains part then none else progress.give? part key value
      | none, [name] =>
          (progress.untouched? name).bind fun part =>
            (part.put? value progress.config).map fun config =>
              { progress with config, sections := part :: progress.sections }
      | _, _ => none

end Progress

/-- The configuration that a text describes, before it is checked. -/
def read? (text : String) : Option Config :=
  match Toml.parse? text with
  | none => none
  | some statements => (statements.foldlM Progress.step? .start).map (·.config)

/-- The configuration that a text describes. -/
def ofText (text : String) : Except ConfigFault Config :=
  match read? text with
  | none => .error .malformed
  | some config => config.check

end QueryTree.Config
