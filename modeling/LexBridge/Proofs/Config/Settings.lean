import LexBridge.Proofs.Host

/-!
# Only usable configurations exist

Settings come from outside and may hold anything. Four of them are looked at, by their names; one
that is absent has a default. Two of the four can be faulty, the command of the lexer tool and the
offset units, and then there is no configuration. A command is anything that has elements: the items
of a list, the characters of a text, the keys of an object. Several faults may come together, and
the one that is told is the first in a fixed order: a command without elements to look at, offset
units that are not offered, a command with no elements.

So there is exactly one answer to settings, and which one can be said without the reading itself
(`Config.Answers`). A configuration that is read is read again from its own settings. Its command,
if it has one, begins with an executable; so where the executable is taken by its index from a row
of elements, there always is one at the index (`Host.commandOf_elements`).

## Main definitions

* `Config.settingNames`: the names of the settings that are looked at.
* `Config.CommandOf`, `Config.UnitsOf`: the command and the units that a setting stands for.
* `Config.Given`: a configuration that settings stand for.
* `Config.Answers`: the answer to settings, a configuration or the fault that is told.
* `Host.commandOf`: the command of the lexer tool, taken from a row of elements by index.

## Main results

* `Config.ofSettings_eq_iff`: the reading of settings gives their one answer.
* `Config.ofSettings_toSettings`: a configuration is read from its own settings.
* `Host.commandOf_elements`: an executable is never missing from the command of a configuration.
* `Config.ofSettings_usable`: all of this for any settings.
-/

namespace LexBridge

namespace Config

/-- The names of the settings that are looked at. -/
def settingNames : List Text :=
  [Text.of "tool_command", Text.of "temp_dir", Text.of "temp_prefix", Text.of "offset_units"]

/-! ### What settings stand for -/

/-- The command that a setting stands for. An absent setting and null are no command. -/
inductive CommandOf : Option Value → Option ToolCommand → Prop
  | absent : CommandOf none none
  | null : CommandOf (some .null) none
  | text (c : CodePoint) (rest : Text) :
      CommandOf (some (.text (c :: rest))) (some ⟨.text [c], rest.map fun d => .text [d]⟩)
  | list (item : Value) (items : List Value) :
      CommandOf (some (.list (item :: items))) (some ⟨item, items⟩)
  | object (field : Text × Value) (fields : List (Text × Value)) :
      CommandOf (some (.object (field :: fields)))
        (some ⟨.text field.1, fields.map fun other => .text other.1⟩)

/-- Settings of a command that have elements, but not one of them. -/
inductive EmptyCommand : Option Value → Prop
  | text : EmptyCommand (some (.text []))
  | list : EmptyCommand (some (.list []))
  | object : EmptyCommand (some (.object []))

/-- Numbers and truth values, which have no elements. -/
inductive IsNumber : Value → Prop
  | bool (value : Bool) : IsNumber (.bool value)
  | int (value : Int) : IsNumber (.int value)
  | float (value : Double) : IsNumber (.float value)

/-- The units that a setting stands for. -/
inductive UnitsOf : Option Value → OffsetUnits → Prop
  | absent : UnitsOf none .utf16
  | utf16 : UnitsOf (some (.text (Text.of "utf-16"))) .utf16
  | codePoint : UnitsOf (some (.text (Text.of "codepoint"))) .codePoint

/-- A configuration that settings stand for. -/
structure Given (settings : Settings) (config : Config) : Prop where
  command : CommandOf (settings.get? (Text.of "tool_command")) config.toolCommand
  tempDir : config.tempDir = (settings.get? (Text.of "temp_dir")).getD .null
  tempPrefix :
    config.tempPrefix = (settings.get? (Text.of "temp_prefix")).getD (.text (Text.of "pygktmp."))
  units : UnitsOf (settings.get? (Text.of "offset_units")) config.offsetUnits

/-- The answer to settings. Each fault but the first needs that none before it is there. -/
inductive Answers (settings : Settings) : Except ConfigError Config → Prop
  | number {value : Value}
      (command : settings.get? (Text.of "tool_command") = some value) (number : IsNumber value) :
      Answers settings (.error (.badValue (.notIterable value.typeName)))
  | units {value : Value}
      (command : ∀ value, settings.get? (Text.of "tool_command") = some value → ¬ IsNumber value)
      (units : settings.get? (Text.of "offset_units") = some value)
      (utf16 : value ≠ .text (Text.of "utf-16"))
      (codePoint : value ≠ .text (Text.of "codepoint")) :
      Answers settings (.error (.unknownUnits value))
  | empty {units : OffsetUnits}
      (command : EmptyCommand (settings.get? (Text.of "tool_command")))
      (units : UnitsOf (settings.get? (Text.of "offset_units")) units) :
      Answers settings (.error .emptyCommand)
  | given {config : Config} (given : Given settings config) : Answers settings (.ok config)

/-! ### The reading of one setting -/

variable {settings : Settings} {setting : Option Value} {value : Value} {tool : Option ToolCommand}
  {offered : OffsetUnits}

theorem IsNumber.commandElements_eq (h : IsNumber value) :
    commandElements (some value) = .error (.badValue (.notIterable value.typeName)) := by
  cases h <;> rfl

theorem EmptyCommand.exists_elements (h : EmptyCommand setting) :
    ∃ elements, commandElements setting = .ok elements ∧
      command elements = .error .emptyCommand := by
  cases h <;> exact ⟨_, rfl, rfl⟩

theorem CommandOf.exists_elements (h : CommandOf setting tool) :
    ∃ elements, commandElements setting = .ok elements ∧ command elements = .ok tool := by
  cases h <;> exact ⟨_, rfl, rfl⟩

/-- A setting of a command is a number, or has no element, or stands for a command. -/
theorem commandSetting_cases (setting : Option Value) :
    (∃ value, setting = some value ∧ IsNumber value) ∨ EmptyCommand setting ∨
      ∃ tool, CommandOf setting tool := by
  rcases setting with - | (- | value | value | value | (- | ⟨c, rest⟩) | (- | ⟨item, items⟩) |
    (- | ⟨field, fields⟩))
  · exact Or.inr (Or.inr ⟨_, .absent⟩)
  · exact Or.inr (Or.inr ⟨_, .null⟩)
  · exact Or.inl ⟨_, rfl, .bool value⟩
  · exact Or.inl ⟨_, rfl, .int value⟩
  · exact Or.inl ⟨_, rfl, .float value⟩
  · exact Or.inr (Or.inl .text)
  · exact Or.inr (Or.inr ⟨_, .text c rest⟩)
  · exact Or.inr (Or.inl .list)
  · exact Or.inr (Or.inr ⟨_, .list item items⟩)
  · exact Or.inr (Or.inl .object)
  · exact Or.inr (Or.inr ⟨_, .object field fields⟩)

theorem not_isNumber_of_elements {elements : Option (List Value)}
    (h : commandElements setting = .ok elements) :
    ∀ value, setting = some value → ¬ IsNumber value := by
  rintro value rfl hnumber
  rw [hnumber.commandElements_eq] at h
  cases h

/-- What is no number has elements to look at, if only none at all. -/
theorem exists_elements_of_not_isNumber (h : ∀ value, setting = some value → ¬ IsNumber value) :
    ∃ elements, commandElements setting = .ok elements := by
  rcases commandSetting_cases setting with ⟨value, hvalue, hnumber⟩ | hempty | ⟨tool, htool⟩
  · exact absurd hnumber (h value hvalue)
  · exact hempty.exists_elements.imp fun elements h => h.1
  · exact htool.exists_elements.imp fun elements h => h.1

theorem UnitsOf.units_eq (h : UnitsOf setting offered) : units setting = .ok offered := by
  have hutf16 : OffsetUnits.ofName (Text.of "utf-16") = .utf16 := by decide
  have hcodePoint : OffsetUnits.ofName (Text.of "codepoint") = .codePoint := by decide
  cases h with
  | absent => rfl
  | utf16 => simp [units, OffsetUnits.names, hutf16]
  | codePoint => simp [units, OffsetUnits.names, hcodePoint]

theorem units_of_not_offered (hutf16 : value ≠ .text (Text.of "utf-16"))
    (hcodePoint : value ≠ .text (Text.of "codepoint")) :
    units (some value) = .error (.unknownUnits value) := by
  cases value with
  | text name =>
    have hname : name ∉ OffsetUnits.names := by
      simpa [OffsetUnits.names] using And.intro hutf16 hcodePoint
    rw [units, if_neg hname]
  | _ => rfl

/-- A setting of offset units stands for units that are offered, or for no others. -/
theorem unitsSetting_cases (setting : Option Value) :
    (∃ offered, UnitsOf setting offered) ∨
      ∃ value, setting = some value ∧ value ≠ .text (Text.of "utf-16") ∧
        value ≠ .text (Text.of "codepoint") := by
  rcases setting with - | value
  · exact Or.inl ⟨_, .absent⟩
  by_cases hutf16 : value = .text (Text.of "utf-16")
  · exact Or.inl ⟨.utf16, hutf16 ▸ UnitsOf.utf16⟩
  by_cases hcodePoint : value = .text (Text.of "codepoint")
  · exact Or.inl ⟨.codePoint, hcodePoint ▸ UnitsOf.codePoint⟩
  · exact Or.inr ⟨value, rfl, hutf16, hcodePoint⟩

/-! ### The reading of settings -/

/-- There is an answer to any settings. -/
theorem exists_answers (settings : Settings) : ∃ answer, Answers settings answer := by
  rcases commandSetting_cases (settings.get? (Text.of "tool_command")) with
    ⟨value, hvalue, hnumber⟩ | hempty | ⟨tool, htool⟩
  · exact ⟨_, .number hvalue hnumber⟩
  all_goals
    rcases unitsSetting_cases (settings.get? (Text.of "offset_units")) with
      ⟨offered, hunits⟩ | ⟨value, hvalue, hutf16, hcodePoint⟩
  · exact ⟨_, .empty hempty hunits⟩
  · obtain ⟨elements, helements, -⟩ := hempty.exists_elements
    exact ⟨_, .units (not_isNumber_of_elements helements) hvalue hutf16 hcodePoint⟩
  · exact ⟨.ok ⟨tool, _, _, offered⟩, .given ⟨htool, rfl, rfl, hunits⟩⟩
  · obtain ⟨elements, helements, -⟩ := htool.exists_elements
    exact ⟨_, .units (not_isNumber_of_elements helements) hvalue hutf16 hcodePoint⟩

/-- The reading of settings gives an answer to them, whichever it is. -/
theorem Answers.ofSettings_eq {answer : Except ConfigError Config} (h : Answers settings answer) :
    ofSettings settings = answer := by
  cases h with
  | number hvalue hnumber =>
    simp [ofSettings, hvalue, hnumber.commandElements_eq, bind, Except.bind]
  | units hcommand hunits hutf16 hcodePoint =>
    obtain ⟨elements, helements⟩ := exists_elements_of_not_isNumber hcommand
    simp [ofSettings, helements, hunits, units_of_not_offered hutf16 hcodePoint, bind, Except.bind]
  | empty hcommand hunits =>
    obtain ⟨elements, helements, hempty⟩ := hcommand.exists_elements
    simp [ofSettings, helements, hunits.units_eq, hempty, bind, Except.bind]
  | @given config hgiven =>
    obtain ⟨command, tempDir, tempPrefix, units⟩ := config
    obtain ⟨elements, helements, htool⟩ := hgiven.command.exists_elements
    obtain rfl : tempDir = _ := hgiven.tempDir
    obtain rfl : tempPrefix = _ := hgiven.tempPrefix
    simp [ofSettings, helements, hgiven.units.units_eq, htool, bind, Except.bind, pure,
      Except.pure, Config.default]

/-- **Settings have one answer**, and the reading gives it. -/
theorem ofSettings_eq_iff {answer : Except ConfigError Config} :
    ofSettings settings = answer ↔ Answers settings answer := by
  refine ⟨?_, Answers.ofSettings_eq⟩
  rintro rfl
  obtain ⟨answer, hanswer⟩ := exists_answers settings
  rwa [hanswer.ofSettings_eq]

/-- There is a configuration just if both settings that may be faulty stand for something. -/
theorem exists_ofSettings_iff : (∃ config, ofSettings settings = .ok config) ↔
    (∃ tool, CommandOf (settings.get? (Text.of "tool_command")) tool) ∧
      ∃ offered, UnitsOf (settings.get? (Text.of "offset_units")) offered := by
  constructor
  · rintro ⟨config, hconfig⟩
    cases ofSettings_eq_iff.mp hconfig with
    | given hgiven => exact ⟨⟨_, hgiven.command⟩, _, hgiven.units⟩
  · rintro ⟨⟨tool, htool⟩, offered, hunits⟩
    exact ⟨⟨tool, _, _, offered⟩, ofSettings_eq_iff.mpr (.given ⟨htool, rfl, rfl, hunits⟩)⟩

/-- No setting is looked at but the four. -/
theorem ofSettings_congr {other : Settings}
    (h : ∀ name ∈ settingNames, other.get? name = settings.get? name) :
    ofSettings other = ofSettings settings := by
  simp only [settingNames, List.forall_mem_cons] at h
  obtain ⟨hcommand, hdir, hprefix, hunits, -⟩ := h
  rw [ofSettings, ofSettings, hcommand, hdir, hprefix, hunits]

/-! ### The settings of a configuration -/

/-- A configuration is what its own settings stand for. -/
theorem given_toSettings (config : Config) : Given config.toSettings config := by
  obtain ⟨tool, tempDir, tempPrefix, offsetUnits⟩ := config
  refine ⟨?_, rfl, rfl, ?_⟩
  · cases tool with
    | none => exact .null
    | some tool => exact .list tool.executable tool.arguments
  · cases offsetUnits with
    | utf16 => exact .utf16
    | codePoint => exact .codePoint

/-- **A configuration is read again** from its own settings. -/
theorem ofSettings_toSettings (config : Config) : ofSettings config.toSettings = .ok config :=
  ofSettings_eq_iff.mpr (.given (given_toSettings config))

end Config

/-! ### The command of a configuration -/

namespace Host

/-- Why there is no command: there is no tool, or no element at an index. -/
inductive CommandError
  | noTool (reason : NoTool)
  | noElement (index : Nat)

/-- The command of the lexer tool, where the elements of a configured one stand in a row: its
executable is taken by index. -/
def commandOf (host : Host) : Option (List Value) → Except CommandError (List Value)
  | none => if host.hasLexers then .ok host.bundledCommand else .error (.noTool .lexersMissing)
  | some elements =>
    match elements[0]? with
    | none => .error (.noElement 0)
    | some executable =>
      if host.locates executable then .ok elements else .error (.noTool (.notFound executable))

/-- **There is an executable at the index** for any configuration, so the command is the one that is
started. -/
theorem commandOf_elements (host : Host) (config : Config) :
    host.commandOf (config.toolCommand.map ToolCommand.toList) =
      (host.command config).mapError .noTool := by
  rw [command]
  cases config.toolCommand with
  | none =>
    simp only [commandOf, Option.map_none]
    split <;> rfl
  | some tool =>
    simp only [commandOf, Option.map_some, ToolCommand.toList, List.getElem?_cons_zero]
    split <;> rfl

/-- A command consists of texts, and of at least one, if that of the configuration consists of
texts. -/
theorem command_texts {host : Host} {config : Config} {row : List Value}
    (h : host.command config = .ok row)
    (hwords : ∀ tool, config.toolCommand = some tool →
      ∀ element ∈ tool.toList, ∃ word, element = .text word) :
    row ≠ [] ∧ ∀ element ∈ row, ∃ word, element = .text word := by
  cases command_eq_ok_iff.mp h with
  | bundled => simp
  | @configured tool hsome _ => exact ⟨List.cons_ne_nil _ _, hwords tool hsome⟩

end Host

/-- **Only usable configurations exist.** Settings are read by their four names alone. There is a
configuration just if the command is absent, null or a list, text or object that is not empty, and
the offset units are absent or among the two that are offered; otherwise there is the first fault,
in the order in which they are looked for. A configuration is read again from its own settings. If
its command consists of texts, then what is started for it begins with texts, and at least one of
them, or there is no tool; an executable is never missing from the command. -/
theorem Config.ofSettings_usable (settings : Settings) :
    (∀ other : Settings, (∀ name ∈ settingNames, other.get? name = settings.get? name) →
        ofSettings other = ofSettings settings) ∧
      ((∃ config, ofSettings settings = .ok config) ↔
        (∃ tool, CommandOf (settings.get? (Text.of "tool_command")) tool) ∧
          ∃ offered, UnitsOf (settings.get? (Text.of "offset_units")) offered) ∧
      (∀ answer, ofSettings settings = answer ↔ Answers settings answer) ∧
      ∀ config, ofSettings settings = .ok config →
        ofSettings config.toSettings = .ok config ∧
          ∀ host : Host, (∀ tool, config.toolCommand = some tool →
              ∀ element ∈ tool.toList, ∃ word, element = .text word) →
            let command := host.commandOf (config.toolCommand.map ToolCommand.toList)
            command = (host.command config).mapError .noTool ∧
              ((∃ row, command = .ok row ∧ row ≠ [] ∧
                  ∀ element ∈ row, ∃ word, element = .text word) ∨
                ∃ reason, command = .error (.noTool reason)) := by
  refine ⟨fun other => ofSettings_congr, exists_ofSettings_iff, fun answer => ofSettings_eq_iff,
    fun config _ => ⟨ofSettings_toSettings config, fun host hwords => ?_⟩⟩
  intro command
  have hcommand : command = (host.command config).mapError .noTool :=
    host.commandOf_elements config
  refine ⟨hcommand, ?_⟩
  rw [hcommand]
  cases hhost : host.command config with
  | error reason => exact Or.inr ⟨reason, rfl⟩
  | ok row => exact Or.inl ⟨row, rfl, Host.command_texts hhost hwords⟩

/-- The characters of a text are a command. -/
theorem Config.ofSettings_usable_characters :
    let settings : Settings :=
      [(Text.of "colour", .text (Text.of "red")), (Text.of "tool_command", .text [0x70, 0x79]),
        (Text.of "offset_units", .text (Text.of "codepoint"))]
    let config : Config :=
      { default with toolCommand := some ⟨.text [0x70], [.text [0x79]]⟩, offsetUnits := .codePoint }
    let host : Host :=
      ⟨Text.of "python", false, fun _ => true, fun _ => false, fun _ _ => .finished [] [] (.int 0)⟩
    ofSettings settings = .ok config ∧ ofSettings (settings.drop 1) = ofSettings settings ∧
      ofSettings config.toSettings = .ok config ∧
      host.commandOf (config.toolCommand.map ToolCommand.toList) =
        (host.command config).mapError .noTool := by
  intro settings config host
  obtain ⟨hcongr, -, hanswer, hconfigs⟩ := ofSettings_usable settings
  have hconfig : ofSettings settings = .ok config :=
    (hanswer _).mpr (.given ⟨.text 0x70 [0x79], rfl, rfl, .codePoint⟩)
  obtain ⟨hagain, hhost⟩ := hconfigs config hconfig
  refine ⟨hconfig, hcongr _ (by decide), hagain, (hhost host ?_).1⟩
  rintro tool hsome
  obtain rfl := Option.some.inj hsome
  rw [ToolCommand.toList, List.forall_mem_cons, List.forall_mem_singleton]
  exact ⟨⟨_, rfl⟩, _, rfl⟩

end LexBridge
