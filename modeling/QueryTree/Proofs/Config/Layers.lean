import QueryTree.Config.File
import QueryTree.Proofs.Config.Spelling

/-! The layers of a configuration. A file stands over the standard configuration, and the variables
that are set stand over the file. Each of the two is checked, so a file that is out of order is
refused whatever the variables say, and what comes out of the layers is in order.
-/

namespace QueryTree

namespace Config

variable {file config : Config} {environment : String → Option String} {fault : ConfigFault}

/-- What is asked of a configuration. -/
structure Valid (config : Config) : Prop where
  depth : 1 ≤ config.maxDepth ∧ config.maxDepth ≤ 4096
  subject : Text.Identifier config.defaultSubject

/-- What a configuration is refused for: its depth, and its subject only if the depth is right. -/
inductive Faulty (config : Config) : ConfigFault → Prop where
  | depth (outside : ¬(1 ≤ config.maxDepth ∧ config.maxDepth ≤ 4096))
      : Faulty config (.depthOutOfRange config.maxDepth)
  | subject (inside : 1 ≤ config.maxDepth ∧ config.maxDepth ≤ 4096)
      (unfit : ¬Text.Identifier config.defaultSubject)
      : Faulty config (.invalidSubject config.defaultSubject)

theorem valid_standard : standard.Valid :=
  ⟨by decide, Text.isIdentifier_iff.mp rfl⟩

theorem valid_or_faulty (config : Config) : config.Valid ∨ ∃ fault, config.Faulty fault := by
  by_cases depth : 1 ≤ config.maxDepth ∧ config.maxDepth ≤ 4096
  · by_cases subject : Text.Identifier config.defaultSubject
    · exact .inl ⟨depth, subject⟩
    · exact .inr ⟨_, .subject depth subject⟩
  · exact .inr ⟨_, .depth depth⟩

theorem outside_iff {depth : Nat}
    : depth < 1 ∨ maxDepthLimit < depth ↔ ¬(1 ≤ depth ∧ depth ≤ 4096) := by
  rw [maxDepthLimit]
  omega

theorem check_of_valid (valid : config.Valid) : config.check = .ok config := by
  have inside : ¬(config.maxDepth < 1 ∨ maxDepthLimit < config.maxDepth) :=
    fun outside => outside_iff.mp outside valid.depth
  rw [check, fault?, if_neg inside, Text.isIdentifier_iff.mpr valid.subject]
  rfl

theorem check_of_faulty (faulty : config.Faulty fault) : config.check = .error fault := by
  cases faulty with
  | depth outside => rw [check, fault?, if_pos (outside_iff.mpr outside)]
  | subject inside unfit =>
      have within : ¬(config.maxDepth < 1 ∨ maxDepthLimit < config.maxDepth) :=
        fun outside => outside_iff.mp outside inside
      have refused : (!Text.isIdentifier config.defaultSubject) = true := by
        simpa using Text.isIdentifier_iff.not.mpr unfit
      rw [check, fault?, if_neg within, if_pos refused]

theorem ofText_of_read {text : String} (read : read? text = some file)
    : ofText text = file.check := by
  rw [ofText, read]

/-- The depth that a variable leaves: the one it holds if it is set, and else what it was. -/
inductive DepthLeft (before : Nat) : Option String → Nat → Prop where
  | held {value : String} {depth : Nat} (whole : WholeNumber value depth)
      : DepthLeft before (some value) depth
  | kept : DepthLeft before none before

theorem left_or_unread (before : Nat) (said : Option String)
    : (∃ depth, DepthLeft before said depth)
      ∨ ∃ value, said = some value ∧ ∀ number, ¬WholeNumber value number := by
  cases said with
  | none => exact .inl ⟨before, .kept⟩
  | some value =>
      by_cases read : ∃ number, WholeNumber value number
      · obtain ⟨number, whole⟩ := read
        exact .inl ⟨number, .held whole⟩
      · exact .inr ⟨value, rfl, not_exists.mp read⟩

theorem DepthLeft.again {before depth : Nat} {said : Option String}
    (left : DepthLeft before said depth)
    : DepthLeft depth said depth := by
  cases left with
  | held whole => exact .held whole
  | kept => exact .kept

/-- A configuration as the variables leave another: each setting is what its variable says, if that
is set, and else what it was.
-/
structure Layered (file : Config) (environment : String → Option String) (config : Config)
    : Prop where
  maxDepth : DepthLeft file.maxDepth (environment maxDepthVariable) config.maxDepth
  defaultSubject :
    config.defaultSubject = (environment defaultSubjectVariable).getD file.defaultSubject
  logFilter : config.logFilter = (environment logFilterVariable).getD file.logFilter

theorem withDepth_of_left {said : Option String} {depth : Nat}
    (left : DepthLeft file.maxDepth said depth)
    : file.withDepth said = .ok { file with maxDepth := depth } := by
  cases left with
  | held whole => rw [withDepth, wholeNumber?_eq_some.mpr whole]
  | kept => rfl

theorem withOverrides_of_layered (layered : Layered file environment config)
    : file.withOverrides environment = config.check := by
  rw [withOverrides, withDepth_of_left layered.maxDepth]
  dsimp only
  rw [← layered.defaultSubject, ← layered.logFilter]

theorem withOverrides_of_unread {value : String} (set : environment maxDepthVariable = some value)
    (unread : ∀ number, ¬WholeNumber value number)
    : file.withOverrides environment = .error (.depthNotWhole value) := by
  have none : wholeNumber? value = none :=
    Option.eq_none_iff_forall_ne_some.mpr fun number read =>
      unread number (wholeNumber?_eq_some.mp read)
  rw [withOverrides, set, withDepth, none]

/-- The variables leave some configuration unless the one for the depth holds no number. -/
theorem layered_or_unread (file : Config) (environment : String → Option String)
    : (∃ config, Layered file environment config)
      ∨ ∃ value,
          environment maxDepthVariable = some value ∧ ∀ number, ¬WholeNumber value number := by
  refine (left_or_unread file.maxDepth (environment maxDepthVariable)).imp_left ?_
  rintro ⟨depth, left⟩
  exact ⟨⟨depth, (environment defaultSubjectVariable).getD file.defaultSubject,
    (environment logFilterVariable).getD file.logFilter⟩, left, rfl, rfl⟩

/-- Variables that are set again change nothing any more. -/
theorem Layered.again (layered : Layered file environment config)
    : Layered config environment config where
  maxDepth := layered.maxDepth.again
  defaultSubject := by
    rw [layered.defaultSubject]
    cases environment defaultSubjectVariable <;> rfl
  logFilter := by
    rw [layered.logFilter]
    cases environment logFilterVariable <;> rfl

/-- A configuration comes out of the layers: the file is in order by itself, and so is what the
variables leave of it.
-/
structure Resolved (file : Config) (environment : String → Option String) (config : Config)
    : Prop where
  before : file.Valid
  layered : Layered file environment config
  after : config.Valid

/-- What the layers are refused for, in this order: a fault of the file, a variable for the depth
that holds no number, and a fault of what the variables leave of the file.
-/
inductive Refused (file : Config) (environment : String → Option String) : ConfigFault → Prop where
  | file {fault : ConfigFault} (faulty : file.Faulty fault) : Refused file environment fault
  | depth {value : String} (valid : file.Valid)
      (set : environment maxDepthVariable = some value)
      (unread : ∀ number, ¬WholeNumber value number)
      : Refused file environment (.depthNotWhole value)
  | layered {config : Config} {fault : ConfigFault} (valid : file.Valid)
      (layered : Layered file environment config) (faulty : config.Faulty fault)
      : Refused file environment fault

theorem resolved_or_refused (file : Config) (environment : String → Option String)
    : (∃ config, Resolved file environment config) ∨ ∃ fault, Refused file environment fault := by
  rcases valid_or_faulty file with valid | ⟨fault, faulty⟩
  · rcases layered_or_unread file environment with ⟨config, layered⟩ | ⟨value, set, unread⟩
    · rcases valid_or_faulty config with also | ⟨fault, faulty⟩
      · exact .inl ⟨config, valid, layered, also⟩
      · exact .inr ⟨fault, .layered valid layered faulty⟩
    · exact .inr ⟨_, .depth valid set unread⟩
  · exact .inr ⟨fault, .file faulty⟩

/-- The configuration of a file with the variables over it, each of them checked. -/
def settle (file : Config) (environment : String → Option String) : Except ConfigFault Config :=
  file.check.bind fun checked => checked.withOverrides environment

theorem settle_of_resolved (resolved : Resolved file environment config)
    : file.settle environment = .ok config := by
  rw [settle, check_of_valid resolved.before, Except.bind,
    withOverrides_of_layered resolved.layered, check_of_valid resolved.after]

theorem settle_of_refused (refused : Refused file environment fault)
    : file.settle environment = .error fault := by
  rw [settle]
  cases refused with
  | file faulty => rw [check_of_faulty faulty, Except.bind]
  | depth valid set unread =>
      rw [check_of_valid valid, Except.bind, withOverrides_of_unread set unread]
  | layered valid layered faulty =>
      rw [check_of_valid valid, Except.bind, withOverrides_of_layered layered,
        check_of_faulty faulty]

theorem settle_eq_ok
    : file.settle environment = .ok config ↔ Resolved file environment config := by
  refine ⟨fun done => ?_, settle_of_resolved⟩
  rcases resolved_or_refused file environment with ⟨other, resolved⟩ | ⟨fault, refused⟩
  · obtain rfl := Except.ok.inj ((settle_of_resolved resolved).symm.trans done)
    exact resolved
  · cases (settle_of_refused refused).symm.trans done

theorem settle_eq_error
    : file.settle environment = .error fault ↔ Refused file environment fault := by
  refine ⟨fun done => ?_, settle_of_refused⟩
  rcases resolved_or_refused file environment with ⟨config, resolved⟩ | ⟨other, refused⟩
  · cases (settle_of_resolved resolved).symm.trans done
  · obtain rfl := Except.error.inj ((settle_of_refused refused).symm.trans done)
    exact refused

theorem Resolved.withOverrides_again (resolved : Resolved file environment config)
    : config.withOverrides environment = .ok config := by
  rw [withOverrides_of_layered resolved.layered.again, check_of_valid resolved.after]

end Config

end QueryTree
