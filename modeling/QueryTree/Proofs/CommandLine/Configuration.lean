import QueryTree.CommandLine.Run
import QueryTree.Proofs.Config.Document
import QueryTree.Proofs.Config.Layers

/-! The configuration that a command runs with. It is read from a file if there is one, whose values
stand over the standard ones, and then the variables of the environment are put over it; what comes
out is told by the layers alone.
-/

namespace QueryTree

namespace CommandLine.Invocation

variable {invocation : Invocation} {workspace : Workspace} {file : Config}

/-- The configuration that the file describes, whether it is in order or not, and the standard one
where there is no file.
-/
def described? (invocation : Invocation) (workspace : Workspace) : Option Config :=
  match invocation.configPath? workspace with
  | none => some .standard
  | some path => (workspace.read? path).bind Config.read?

/-- The statements of the file; there are none where there is no file. -/
def statements? (invocation : Invocation) (workspace : Workspace) : Option (List Toml.Statement) :=
  match invocation.configPath? workspace with
  | none => some []
  | some path => (workspace.read? path).bind Toml.parse?

/-- The settings of the file are those that its statements give, and else the standard ones. -/
theorem takes_of_described (described : invocation.described? workspace = some file)
    : ∃ statements,
        invocation.statements? workspace = some statements
        ∧ Config.Takes (Config.Gives none statements) .standard file := by
  rw [described?] at described
  rw [statements?]
  cases located : invocation.configPath? workspace with
  | none =>
      rw [located] at described
      cases described
      exact ⟨[], rfl, Config.takes_of_none fun _ _ => Config.gives_nil⟩
  | some path =>
      rw [located] at described
      obtain ⟨text, found, read⟩ := Option.bind_eq_some_iff.mp described
      obtain ⟨statements, parsed, taken⟩ := Config.takes_of_read? read
      exact ⟨statements, Option.bind_eq_some_iff.mpr ⟨text, found, parsed⟩, taken⟩

theorem fileConfig_of_described (described : invocation.described? workspace = some file)
    : invocation.fileConfig workspace = file.check.mapError .config := by
  rw [described?] at described
  rw [fileConfig]
  cases located : invocation.configPath? workspace with
  | none =>
      rw [located] at described
      obtain rfl := Option.some.inj described
      rw [Config.check_of_valid Config.valid_standard]
      rfl
  | some path =>
      rw [located] at described
      obtain ⟨text, found, read⟩ := Option.bind_eq_some_iff.mp described
      dsimp only
      rw [found, ← Config.ofText_of_read read]

theorem resolveConfig_of_described (described : invocation.described? workspace = some file)
    : invocation.resolveConfig workspace
      = (file.settle workspace.environment).mapError .config := by
  rw [resolveConfig, fileConfig_of_described described, Config.settle]
  cases file.check <;> rfl

theorem resolveConfig_eq_ok (described : invocation.described? workspace = some file)
    {config : Config}
    : invocation.resolveConfig workspace = .ok config
      ↔ Config.Resolved file workspace.environment config := by
  rw [resolveConfig_of_described described, ← Config.settle_eq_ok]
  cases file.settle workspace.environment <;> simp [Except.mapError]

theorem resolveConfig_eq_error (described : invocation.described? workspace = some file)
    {failure : Failure}
    : invocation.resolveConfig workspace = .error failure
      ↔ ∃ fault,
          failure = .config fault ∧ Config.Refused file workspace.environment fault := by
  simp only [resolveConfig_of_described described, ← Config.settle_eq_error]
  cases file.settle workspace.environment <;> simp [Except.mapError, eq_comm]

/-- Where the file can be read, or there is none, what the file gives stands over the standard
configuration. The configuration of an invocation is what the variables leave of that if the file is
in order, the variable for the depth holds a number, and the outcome is in order as well. The first
of these that fails is reported, a depth before a subject. The variables that were set change
nothing in the outcome if they are set again.
-/
theorem resolveConfig_by_layers (described : invocation.described? workspace = some file)
    : (∃ statements,
        invocation.statements? workspace = some statements
        ∧ Config.Takes (Config.Gives none statements) .standard file)
      ∧ (∀ config,
        invocation.resolveConfig workspace = .ok config
        ↔ Config.Resolved file workspace.environment config)
      ∧ (∀ failure,
        invocation.resolveConfig workspace = .error failure
        ↔ ∃ fault,
            failure = .config fault ∧ Config.Refused file workspace.environment fault)
      ∧ ∀ config,
          invocation.resolveConfig workspace = .ok config
          → config.withOverrides workspace.environment = .ok config := by
  refine ⟨takes_of_described described, fun _ => resolveConfig_eq_ok described,
    fun _ => resolveConfig_eq_error described, ?_⟩
  intro config done
  exact ((resolveConfig_eq_ok described).mp done).withOverrides_again

/-- A place with a configuration file for a depth and a subject, and with a variable for the depth.
-/
def rowWorkspace (depth : String) : Workspace where
  file path :=
    if path = localConfigPath then .text ("compiler = [" ++ depth ++ ", \"row\"]\n") else .missing
  environment name := if name = Config.maxDepthVariable then some " +32\t" else none

/-- Over a file of depth 12 the depth is that of the variable, the subject that of the file, and the
log filter the standard one. A file of depth 5000 is refused although its depth would be overridden.
-/
theorem variable_stands_over_valid_file
    : described? ⟨.operators .string, none⟩ (rowWorkspace "12")
        = some ⟨12, "row", "policyql=info"⟩
      ∧ resolveConfig ⟨.operators .string, none⟩ (rowWorkspace "12")
        = .ok ⟨32, "row", "policyql=info"⟩
      ∧ Config.withOverrides ⟨32, "row", "policyql=info"⟩ (rowWorkspace "12").environment
        = .ok ⟨32, "row", "policyql=info"⟩
      ∧ described? ⟨.operators .string, none⟩ (rowWorkspace "5000")
        = some ⟨5000, "row", "policyql=info"⟩
      ∧ resolveConfig ⟨.operators .string, none⟩ (rowWorkspace "5000")
        = .error (.config (.depthOutOfRange 5000)) := by
  have twelve
      : described? ⟨.operators .string, none⟩ (rowWorkspace "12")
        = some ⟨12, "row", "policyql=info"⟩ :=
    rfl
  have tooDeep
      : described? ⟨.operators .string, none⟩ (rowWorkspace "5000")
        = some ⟨5000, "row", "policyql=info"⟩ :=
    rfl
  obtain ⟨_, resolved, _, again⟩ := resolveConfig_by_layers twelve
  obtain ⟨_, _, refused, _⟩ := resolveConfig_by_layers tooDeep
  have depth : Config.WholeNumber " +32\t" 32 := Config.wholeNumber?_eq_some.mp rfl
  have done := (resolved ⟨32, "row", "policyql=info"⟩).mpr
    { before := ⟨by decide, Text.isIdentifier_iff.mp rfl⟩
      layered := ⟨.held depth, rfl, rfl⟩
      after := ⟨by decide, Text.isIdentifier_iff.mp rfl⟩ }
  exact ⟨twelve, done, again _ done, tooDeep, (refused _).mpr ⟨_, rfl, .file (.depth (by decide))⟩⟩

end CommandLine.Invocation

end QueryTree
