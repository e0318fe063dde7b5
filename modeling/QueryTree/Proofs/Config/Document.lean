import QueryTree.Config.File

/-! What a configuration file says. Its statements assign values to settings, each to those that its
header, its key and its value name. Read one after the other they leave every setting with a value
it was assigned, or with the standard one if it was assigned none.
-/

namespace QueryTree.Config

variable {config next done : Config} {part : Section} {current : Option Section}
  {given more : Setting → Toml.Value → Prop}

/-- The value of a setting, as a file writes it. -/
def Setting.value : Setting → Config → Toml.Value
  | .maxDepth, config => .integer config.maxDepth
  | .defaultSubject, config => .text config.defaultSubject
  | .logFilter, config => .text config.logFilter

/-- From one configuration to the next, every setting takes a value that is given for it, and those
without one stay.
-/
def Takes (given : Setting → Toml.Value → Prop) (config next : Config) : Prop :=
  ∀ setting : Setting,
    given setting (setting.value next)
    ∨ (∀ value, ¬given setting value) ∧ setting.value next = setting.value config

theorem Takes.of_iff (takes : Takes given config next)
    (same : ∀ setting value, given setting value ↔ more setting value)
    : Takes more config next := by
  intro setting
  simpa only [same] using takes setting

theorem takes_of_none (nothing : ∀ setting value, ¬given setting value)
    : Takes given config config :=
  fun setting => .inr ⟨nothing setting, rfl⟩

/-- What is given later stands over what is given before. -/
theorem Takes.trans (first : Takes given config next) (second : Takes more next done)
    : Takes (fun setting value => given setting value ∨ more setting value) config done := by
  intro setting
  rcases second setting with taken | ⟨none, kept⟩
  · exact .inl (.inr taken)
  · rw [kept]
    refine (first setting).imp .inl ?_
    rintro ⟨nothing, stayed⟩
    exact ⟨fun value either => either.elim (nothing value) (none value), stayed⟩

/-- A setting that is put has its value, and the others keep theirs. -/
theorem Setting.value_of_put? {setting : Setting} {value : Toml.Value}
    (put : setting.put? value config = some next)
    : setting.value next = value ∧ ∀ other ≠ setting, other.value next = other.value config := by
  unfold Setting.put? at put
  split at put
  case h_1 number =>
    obtain ⟨⟨natural, -⟩, put⟩ := Option.ite_none_right_eq_some.mp put
    cases put
    exact ⟨congrArg Toml.Value.integer (Int.toNat_of_nonneg natural),
      fun other different => by cases other <;> trivial⟩
  case h_2 => cases put; exact ⟨rfl, fun other different => by cases other <;> trivial⟩
  case h_3 => cases put; exact ⟨rfl, fun other different => by cases other <;> trivial⟩
  case h_4 => cases put

theorem takes_of_put? {setting : Setting} {value : Toml.Value}
    (put : setting.put? value config = some next)
    : Takes (fun other given => other = setting ∧ given = value) config next := by
  obtain ⟨stored, kept⟩ := Setting.value_of_put? put
  intro other
  by_cases same : other = setting
  · subst same
    exact .inl ⟨rfl, stored⟩
  · exact .inr ⟨fun _ given => same given.1, kept other same⟩

/-- What a list of values gives the settings of a section: each the one at its place. -/
theorem takes_of_putItems? {settings : List Setting} {items : List Toml.Value}
    (put : putItems? settings items config = some next)
    : Takes (fun setting value => (setting, value) ∈ settings.zip items) config next := by
  induction settings generalizing items config with
  | nil =>
      cases put
      exact takes_of_none fun _ _ => by simp
  | cons setting settings ih =>
      cases items with
      | nil =>
          cases put
          exact takes_of_none fun _ _ => by simp
      | cons value values =>
          obtain ⟨between, first, rest⟩ := Option.bind_eq_some_iff.mp put
          refine ((takes_of_put? first).trans (ih rest)).of_iff fun _ _ => ?_
          rw [List.zip_cons_cons, List.mem_cons, Prod.mk.injEq]

theorem putFields?_cons {path : Toml.Path} {value : Toml.Value} {fields : Toml.Fields}
    (put : part.putFields? ((path, value) :: fields) config = some next)
    : ∃ key setting,
        path = [key] ∧ part.setting? key = some setting
        ∧ (setting.put? value config).bind (part.putFields? fields) = some next := by
  cases path with
  | nil => cases put
  | cons key names =>
      cases names with
      | nil =>
          rw [Section.putFields?] at put
          cases known : part.setting? key with
          | none => rw [known] at put; cases put
          | some setting =>
              rw [known] at put
              exact ⟨key, setting, rfl, known, put⟩
      | cons => cases put

/-- What the fields of a table give the settings of a section: each those with its key. -/
theorem takes_of_putFields? {fields : Toml.Fields} (put : part.putFields? fields config = some next)
    : Takes
        (fun setting value => ∃ key, ([key], value) ∈ fields ∧ part.setting? key = some setting)
        config next := by
  induction fields generalizing config with
  | nil =>
      cases put
      exact takes_of_none fun _ _ => by simp
  | cons field fields ih =>
      obtain ⟨path, value⟩ := field
      obtain ⟨key, setting, rfl, known, put⟩ := putFields?_cons put
      obtain ⟨between, first, rest⟩ := Option.bind_eq_some_iff.mp put
      refine ((takes_of_put? first).trans (ih rest)).of_iff fun other given => ?_
      constructor
      · rintro (⟨rfl, rfl⟩ | ⟨other, present, named⟩)
        · exact ⟨key, List.mem_cons_self, known⟩
        · exact ⟨other, List.mem_cons_of_mem _ present, named⟩
      · rintro ⟨other, present, named⟩
        cases present with
        | head => exact .inl ⟨Option.some.inj (named.symm.trans known), rfl⟩
        | tail _ present => exact .inr ⟨other, present, named⟩

/-- A statement assigns a value to a setting, below the header of a section or before all headers.
-/
inductive Assigns : Option Section → Toml.Statement → Setting → Toml.Value → Prop where
  | below {part : Section} {key : String} {setting : Setting} {value : Toml.Value}
      (known : part.setting? key = some setting)
      : Assigns (some part) (.assign [key] value) setting value
  | dotted {name key : String} {part : Section} {setting : Setting} {value : Toml.Value}
      (named : Section.ofName? name = some part) (known : part.setting? key = some setting)
      : Assigns none (.assign [name, key] value) setting value
  | field {name key : String} {part : Section} {setting : Setting} {value : Toml.Value}
      {fields : Toml.Fields} (named : Section.ofName? name = some part)
      (present : ([key], value) ∈ fields) (known : part.setting? key = some setting)
      : Assigns none (.assign [name] (.table fields)) setting value
  | item {name : String} {part : Section} {setting : Setting} {value : Toml.Value}
      {items : List Toml.Value} (named : Section.ofName? name = some part)
      (present : (setting, value) ∈ part.settings.zip items)
      : Assigns none (.assign [name] (.array items)) setting value

theorem not_assigns_header {path : Toml.Path} {setting : Setting} {value : Toml.Value}
    : ¬Assigns current (.header path) setting value :=
  nofun

/-- The section of the last header, after a statement. -/
def sectionAfter (current : Option Section) : Toml.Statement → Option Section
  | .header [name] => Section.ofName? name
  | _ => current

/-- One of the statements assigns a value to a setting. -/
inductive Gives : Option Section → List Toml.Statement → Setting → Toml.Value → Prop where
  | here {current : Option Section} {statement : Toml.Statement} {rest : List Toml.Statement}
      {setting : Setting} {value : Toml.Value}
      (assigns : Assigns current statement setting value)
      : Gives current (statement :: rest) setting value
  | later {current : Option Section} {statement : Toml.Statement} {rest : List Toml.Statement}
      {setting : Setting} {value : Toml.Value}
      (gives : Gives (sectionAfter current statement) rest setting value)
      : Gives current (statement :: rest) setting value

theorem gives_nil {setting : Setting} {value : Toml.Value} : ¬Gives current [] setting value :=
  nofun

theorem gives_cons {statement : Toml.Statement} {rest : List Toml.Statement} {setting : Setting}
    {value : Toml.Value}
    : Gives current (statement :: rest) setting value
      ↔ Assigns current statement setting value
        ∨ Gives (sectionAfter current statement) rest setting value := by
  constructor
  · rintro (assigns | gives)
    · exact .inl assigns
    · exact .inr gives
  · exact fun either => either.elim .here .later

theorem ofName?_of_untouched? {progress : Progress} {name : String}
    (untouched : progress.untouched? name = some part)
    : Section.ofName? name = some part := by
  rw [Progress.untouched?] at untouched
  cases named : Section.ofName? name with
  | none => rw [named] at untouched; cases untouched
  | some found =>
      rw [named] at untouched
      exact (Option.ite_none_left_eq_some.mp untouched).2

theorem put?_of_give? {progress after : Progress} {key : String} {value : Toml.Value}
    (given : progress.give? part key value = some after)
    : ∃ setting,
        part.setting? key = some setting
        ∧ setting.put? value progress.config = some after.config
        ∧ after.current = progress.current := by
  rw [Progress.give?] at given
  cases known : part.setting? key with
  | none => rw [known] at given; cases given
  | some setting =>
      rw [known] at given
      obtain ⟨-, given⟩ := Option.ite_none_left_eq_some.mp given
      obtain ⟨config, put, rfl⟩ := Option.map_eq_some_iff.mp given
      exact ⟨setting, rfl, put, rfl⟩

/-- A key below a header assigns its value. -/
theorem takes_of_below {setting : Setting} {key : String} {value : Toml.Value}
    (known : part.setting? key = some setting) (put : setting.put? value config = some next)
    : Takes (Assigns (some part) (.assign [key] value)) config next := by
  refine (takes_of_put? put).of_iff fun other given => ⟨?_, ?_⟩
  · rintro ⟨rfl, rfl⟩
    exact .below known
  · rintro ⟨same⟩
    exact ⟨Option.some.inj (same.symm.trans known), rfl⟩

/-- A dotted key assigns its value. -/
theorem takes_of_dotted {setting : Setting} {name key : String} {value : Toml.Value}
    (named : Section.ofName? name = some part) (known : part.setting? key = some setting)
    (put : setting.put? value config = some next)
    : Takes (Assigns none (.assign [name, key] value)) config next := by
  refine (takes_of_put? put).of_iff fun other given => ⟨?_, ?_⟩
  · rintro ⟨rfl, rfl⟩
    exact .dotted named known
  · rintro (_ | ⟨found, same⟩)
    obtain rfl := Option.some.inj (found.symm.trans named)
    exact ⟨Option.some.inj (same.symm.trans known), rfl⟩

/-- A section that is given as one value assigns what is in it. -/
theorem takes_of_put?_section {name : String} {value : Toml.Value}
    (named : Section.ofName? name = some part) (put : part.put? value config = some next)
    : Takes (Assigns none (.assign [name] value)) config next := by
  unfold Section.put? at put
  split at put
  case h_1 fields =>
    refine (takes_of_putFields? put).of_iff fun setting value => ⟨?_, ?_⟩
    · rintro ⟨key, present, known⟩
      exact .field named present known
    · rintro (_ | _ | ⟨found, present, known⟩)
      obtain rfl := Option.some.inj (found.symm.trans named)
      exact ⟨_, present, known⟩
  case h_2 items =>
    refine (takes_of_putItems? put).of_iff fun setting value => ⟨.item named, ?_⟩
    rintro (_ | _ | _ | ⟨found, present⟩)
    obtain rfl := Option.some.inj (found.symm.trans named)
    exact present
  case h_3 => cases put

/-- A statement moves on to its header, and its values are taken. -/
theorem takes_of_step? {progress after : Progress} {statement : Toml.Statement}
    (stepped : progress.step? statement = some after)
    : after.current = sectionAfter progress.current statement
      ∧ Takes (Assigns progress.current statement) progress.config after.config := by
  unfold Progress.step? at stepped
  split at stepped
  case h_1 name =>
    obtain ⟨part, untouched, rfl⟩ := Option.map_eq_some_iff.mp stepped
    exact ⟨(ofName?_of_untouched? untouched).symm, takes_of_none fun _ _ => not_assigns_header⟩
  case h_2 => cases stepped
  case h_3 => cases stepped
  case h_4 path value =>
    split at stepped
    case h_1 part key below =>
      obtain ⟨setting, known, put, same⟩ := put?_of_give? stepped
      rw [below]
      exact ⟨same.trans below, takes_of_below known put⟩
    case h_2 name key top =>
      rw [top]
      split at stepped
      case h_1 => cases stepped
      case h_2 part named =>
        obtain ⟨-, given⟩ := Option.ite_none_left_eq_some.mp stepped
        obtain ⟨setting, known, put, same⟩ := put?_of_give? given
        exact ⟨same.trans top, takes_of_dotted named known put⟩
    case h_3 name top =>
      obtain ⟨part, untouched, stepped⟩ := Option.bind_eq_some_iff.mp stepped
      obtain ⟨config, put, rfl⟩ := Option.map_eq_some_iff.mp stepped
      rw [top]
      exact ⟨rfl, takes_of_put?_section (ofName?_of_untouched? untouched) put⟩
    case h_4 => cases stepped

/-- The values of all statements are taken, by induction on the statements. -/
theorem takes_of_foldlM {progress after : Progress} {statements : List Toml.Statement}
    (run : statements.foldlM Progress.step? progress = some after)
    : Takes (Gives progress.current statements) progress.config after.config := by
  induction statements generalizing progress with
  | nil =>
      cases run
      exact takes_of_none fun _ _ => gives_nil
  | cons statement rest ih =>
      rw [List.foldlM_cons] at run
      obtain ⟨between, stepped, run⟩ := Option.bind_eq_some_iff.mp run
      obtain ⟨moved, taken⟩ := takes_of_step? stepped
      have later := ih run
      rw [moved] at later
      exact (taken.trans later).of_iff fun _ _ => gives_cons.symm

/-- What a file says stands over the standard configuration. -/
theorem takes_of_read? {text : String} (read : read? text = some config)
    : ∃ statements,
        Toml.parse? text = some statements ∧ Takes (Gives none statements) standard config := by
  rw [read?] at read
  cases parsed : Toml.parse? text with
  | none => rw [parsed] at read; cases read
  | some statements =>
      rw [parsed] at read
      obtain ⟨done, run, rfl⟩ := Option.map_eq_some_iff.mp read
      exact ⟨statements, rfl, takes_of_foldlM run⟩

end QueryTree.Config
