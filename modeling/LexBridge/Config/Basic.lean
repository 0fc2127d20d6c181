import LexBridge.Range.Basic
import LexBridge.Value.Fault

/-!
# Configuration

Which lexer tool to run, where its scratch files go and how they are named, and what offsets count.
A configuration is read from loosely typed settings. The faults of bad settings are looked for in a
fixed order, and only usable configurations exist: the tool command, if there is one, has a first
element, and the offset units are among those that are offered.

## Main definitions

* `Config`, `Config.default`: a configuration, and the one that holds when none is given.
* `Config.ofSettings`, `Config.ofValue`: a configuration from settings, or the first fault in them.
* `Config.toSettings`: the settings of a configuration.
-/

namespace LexBridge

/-- What may be wrong with settings. -/
inductive ConfigError
  /-- The settings are no object, or the tool command is a value that has no elements. -/
  | badValue (fault : Value.Fault)
  /-- The offset units are none of those that are offered. -/
  | unknownUnits (value : Value)
  /-- The tool command has no elements. -/
  | emptyCommand

/-- The words for bad settings. -/
def ConfigError.message : ConfigError → Text
  | badValue fault => fault.message
  | unknownUnits value =>
    Text.of "offset_units must be one of ('utf-16', 'codepoint'), got " ++ value.render
  | emptyCommand => Text.of "tool_command must not be empty"

/-- The elements of a tool command: the executable, which is never missing, and what stands between
it and the arguments. -/
structure ToolCommand where
  executable : Value
  arguments : List Value

namespace ToolCommand

/-- The elements of a command in a row. -/
def toList (command : ToolCommand) : List Value := command.executable :: command.arguments

/-- The command with the given elements, unless there are none. -/
def ofList? : List Value → Option ToolCommand
  | [] => none
  | executable :: arguments => some ⟨executable, arguments⟩

end ToolCommand

/-- How the lexer tool is used. -/
structure Config where
  /-- The command of the lexer tool; without one, the bundled tool is run. -/
  toolCommand : Option ToolCommand
  /-- The directory for scratch files; an empty value means that of the platform. -/
  tempDir : Value
  /-- What the names of scratch files begin with. -/
  tempPrefix : Value
  /-- What the offsets of ranges count. -/
  offsetUnits : OffsetUnits

/-- Settings: named values, of which the first one of a name counts. -/
abbrev Settings := List (Text × Value)

/-- The value of a setting, if it is present. -/
def Settings.get? (settings : Settings) (key : Text) : Option Value := List.lookup key settings

namespace Config

/-- The configuration that holds when none is given. -/
def default : Config :=
  ⟨none, .null, .text (Text.of "pygktmp."), .utf16⟩

/-- The elements of a tool command setting; null and an absent setting are no command. -/
def commandElements : Option Value → Except ConfigError (Option (List Value))
  | none | some .null => .ok none
  | some value => (value.elements.map some).mapError .badValue

/-- The offset units of a setting; an absent one means UTF-16. -/
def units : Option Value → Except ConfigError OffsetUnits
  | none => .ok .utf16
  | some (.text name) =>
    if name ∈ OffsetUnits.names then .ok (.ofName name) else .error (.unknownUnits (.text name))
  | some value => .error (.unknownUnits value)

/-- The command with the given elements. -/
def command : Option (List Value) → Except ConfigError (Option ToolCommand)
  | none => .ok none
  | some elements =>
    match ToolCommand.ofList? elements with
    | some command => .ok (some command)
    | none => .error .emptyCommand

/-- The configuration of settings. Names that mean nothing are ignored. The type of the command is
looked at first, then the offset units, then whether the command is empty. -/
def ofSettings (settings : Settings) : Except ConfigError Config := do
  let elements ← commandElements (settings.get? (Text.of "tool_command"))
  let offsetUnits ← units (settings.get? (Text.of "offset_units"))
  let toolCommand ← command elements
  return {
    toolCommand
    tempDir := (settings.get? (Text.of "temp_dir")).getD default.tempDir
    tempPrefix := (settings.get? (Text.of "temp_prefix")).getD default.tempPrefix
    offsetUnits }

/-- The configuration of a value, which is to be an object of settings. -/
def ofValue (value : Value) : Except ConfigError Config := do
  ofSettings (← value.fields.mapError .badValue)

/-- The units that are asked for by a value, or those of the configuration if it does not count as
true. -/
def unitsFor (config : Config) : Value → OffsetUnits
  | .text name => if name = [] then config.offsetUnits else .ofName name
  | value => if value.isTruthy then .codePoint else config.offsetUnits

/-- All four settings of a configuration. -/
def toSettings (config : Config) : Settings :=
  [(Text.of "tool_command",
      match config.toolCommand with
      | none => .null
      | some command => .list command.toList),
    (Text.of "temp_dir", config.tempDir),
    (Text.of "temp_prefix", config.tempPrefix),
    (Text.of "offset_units", .text config.offsetUnits.name)]

end Config

end LexBridge
