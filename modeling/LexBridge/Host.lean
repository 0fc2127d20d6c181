import LexBridge.Outcome

/-!
# The host and its commands

What the machine answers about commands: which executables it finds, and what happens when a
command is started. From these a command line for the lexer tool is put together, started, and what
it wrote is decoded.

## Main definitions

* `Host`, `Launch`: a machine, and how starting a command ends.
* `Host.command`: the command of the configured or the bundled tool.
* `ToolResult`, `Runner`: what the tool wrote, and anything that can run the tool.
* `Host.runner`, `Host.run`: the runner that starts commands.
* `launch`: the output of the tool, if it ends well.
-/

namespace LexBridge

/-- How starting a command ends. -/
inductive Launch
  /-- The command ran to its end. -/
  | finished (stdout stderr : List UInt8) (status : Value)
  /-- The command is not there or must not be run. -/
  | refused (refusal : SpawnRefusal)
  /-- Starting it failed for another reason. -/
  | broken (failure : Failure)

/-- A machine that runs commands. -/
structure Host where
  /-- The interpreter that runs the bundled tool. -/
  interpreter : Text
  /-- Whether the lexers that the bundled tool needs are installed. -/
  hasLexers : Bool
  /-- Whether a name is found on the search path. -/
  finds : Value → Bool
  /-- Whether a name is that of a regular file. -/
  isFile : Value → Bool
  /-- What starting a command comes to, given what is on the disk. -/
  start : List Value → Disk → Launch

/-- What the tool wrote, and the status it ended with. A command of the host writes texts, but a
runner that comes from elsewhere may answer with values of any type. -/
structure ToolResult where
  stdout : Value
  stderr : Value
  status : Value

/-- Anything that runs the lexer tool, given its arguments. -/
abbrev Runner := List Value → Disk → Outcome ToolResult

/-- The module that the bundled tool is. -/
def bundledTool : Text := Text.of "pygkit.tool"

namespace Host

/-- Whether an executable is there, on the search path or as a file. -/
def locates (host : Host) (executable : Value) : Bool :=
  host.finds executable || host.isFile executable

/-- The command of the bundled tool, without arguments. -/
def bundledCommand (host : Host) : List Value :=
  [.text host.interpreter, .text (Text.of "-m"), .text bundledTool]

/-- The command of the lexer tool, without arguments. -/
def command (host : Host) (config : Config) : Except NoTool (List Value) :=
  match config.toolCommand with
  | none => if host.hasLexers then .ok host.bundledCommand else .error .lexersMissing
  | some command =>
    if host.locates command.executable then .ok command.toList
    else .error (.notFound command.executable)

/-- What the tool wrote, decoded. Output that is no UTF-8 is dropped with a warning; error output
is always kept, with its faults replaced. -/
def collect (stdout stderr : List UInt8) (status : Value) : ToolResult × Journal :=
  match Utf8.decode? stdout with
  | some text => (⟨.text text, .text (Utf8.decodeReplacing stderr), status⟩, [])
  | none =>
    (⟨.text [], .text (Utf8.decodeReplacing stderr), status⟩, [.logged .undecodableOutput])

/-- Runs the tool as a command of the host. -/
def runner (host : Host) (config : Config) : Runner := fun arguments disk =>
  match host.command config with
  | .error reason => .failed (.noTool reason) disk []
  | .ok tool =>
    let command := tool ++ arguments
    let begun : Journal := [.logged (.running command), .started command]
    match host.start command disk with
    | .refused refusal =>
      .failed (.noTool (.notStarted (command.headD .null) refusal)) disk begun
    | .broken failure => .failed failure disk begun
    | .finished stdout stderr status =>
      let (result, notes) := collect stdout stderr status
      .done result disk (begun ++ notes)

/-- Runs the tool with the elements of a value as its arguments. The tool is looked for first. -/
def run (host : Host) (config : Config) (arguments : Value) (disk : Disk) : Outcome ToolResult :=
  match host.command config, arguments.elements with
  | .error reason, _ => .failed (.noTool reason) disk []
  | .ok _, .error fault => .failed (.badValue fault) disk []
  | .ok _, .ok elements => host.runner config elements disk

end Host

/-- Has the tool run and answers what it wrote, if it ends with status zero. Any other number is
noted, without its fraction, before it fails the call. A status that is no number cannot be. -/
def launch (runner : Runner) (arguments : List Value) (disk : Disk) : Outcome Value :=
  let outcome := runner arguments disk
  let journal := .invoked arguments disk :: outcome.journal
  match outcome.result with
  | .error failure => ⟨.error failure, outcome.disk, journal⟩
  | .ok result =>
    if result.status.number? = some 0 then ⟨.ok result.stdout, outcome.disk, journal⟩
    else
      match result.status.whole with
      | .ok status =>
        ⟨.error (.toolFailed result.stderr result.status), outcome.disk,
          journal ++ [.logged (.failedStatus status)]⟩
      | .error fault => ⟨.error (.badValue fault), outcome.disk, journal⟩

end LexBridge
