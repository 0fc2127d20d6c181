import LexBridge.Host
import LexBridge.Proofs.Text.Utf8

/-!
# Asking the tool

The library takes the answer of a runner as it is, and asks for no second one: what the runner fails
with is what the call fails with, and its output counts just if its status is zero. Of a command
that is found, runs to its end and writes text, the library gets the text, as it was written.

## Main definitions

* `Host.HasStatuses`: hosts whose commands end as commands do.
* `Host.Offers`, `Host.Lacks`: the lexer tool is found, and it is not.

## Main results

* `launch_cases`: everything that asking a runner may come to.
* `Host.command_eq_ok_iff`, `Host.command_eq_error_iff`: when the tool is found.
* `Host.command_bundled`: the command of the bundled tool.
* `Host.launch_of_noTool`, `Host.launch_of_refused`, `Host.launch_of_broken`,
  `Host.launch_of_failed`, `Host.launch_of_finished`: answer and journal of a command, by how it
  ends.
* `Host.launch_runner`: those of a command that ends well.
-/

namespace LexBridge

/-! ### Runners -/

section Launch

variable (runner : Runner) (arguments : List Value) (disk : Disk)

theorem disk_launch : (launch runner arguments disk).disk = (runner arguments disk).disk := by
  simp only [launch]
  split
  · rfl
  split
  · rfl
  · split <;> rfl

/-- **A runner fails, or answers with status zero, or with another status.** Only in the second case
is there output. -/
theorem launch_cases :
    (∃ failure, (runner arguments disk).result = .error failure ∧
        (launch runner arguments disk).result = .error failure) ∨
      (∃ answer, (runner arguments disk).result = .ok answer ∧ answer.status.number? = some 0 ∧
        (launch runner arguments disk).result = .ok answer.stdout) ∨
      ∃ answer failure, (runner arguments disk).result = .ok answer ∧
        answer.status.number? ≠ some 0 ∧
        (launch runner arguments disk).result = .error failure := by
  simp only [launch]
  cases hresult : (runner arguments disk).result with
  | error failure => exact Or.inl ⟨failure, rfl, rfl⟩
  | ok answer =>
    right
    by_cases hstatus : answer.status.number? = some 0
    · exact Or.inl ⟨answer, rfl, hstatus, by simp only [if_pos hstatus]⟩
    · refine Or.inr ⟨answer, ?_⟩
      simp only [if_neg hstatus]
      cases answer.status.whole with
      | ok status => exact ⟨_, trivial, hstatus, rfl⟩
      | error fault => exact ⟨_, trivial, hstatus, rfl⟩

/-- Asking is noted once, in front of what the runner notes; behind that there are records at
most. -/
theorem journal_launch :
    ∃ records : List Log.Record, (launch runner arguments disk).journal =
      .invoked arguments disk :: (runner arguments disk).journal ++ records.map .logged := by
  simp only [launch]
  split
  · exact ⟨[], (List.append_nil _).symm⟩
  split
  · exact ⟨[], (List.append_nil _).symm⟩
  · split
    · exact ⟨[_], rfl⟩
    · exact ⟨[], (List.append_nil _).symm⟩

end Launch

/-! ### Commands -/

namespace Host

/-- The commands of a host end with numbers for a status. -/
def HasStatuses (host : Host) : Prop :=
  ∀ command disk stdout stderr status,
    host.start command disk = .finished stdout stderr status → ∃ code, status = .int code

/-- A host offers a command as the lexer tool: the bundled one if none is configured, or the
configured one if its executable is on the search path or a file. -/
inductive Offers (host : Host) (config : Config) : List Value → Prop
  | bundled (none_configured : config.toolCommand = none) (lexers : host.hasLexers = true) :
      Offers host config
        [.text host.interpreter, .text (Text.of "-m"), .text (Text.of "pygkit.tool")]
  | configured {command : ToolCommand} (configured : config.toolCommand = some command)
      (located : host.finds command.executable = true ∨ host.isFile command.executable = true) :
      Offers host config (command.executable :: command.arguments)

/-- A host lacks the lexer tool. -/
inductive Lacks (host : Host) (config : Config) : NoTool → Prop
  | lexers (none_configured : config.toolCommand = none) (no_lexers : host.hasLexers = false) :
      Lacks host config .lexersMissing
  | executable {command : ToolCommand} (configured : config.toolCommand = some command)
      (not_found : host.finds command.executable = false)
      (no_file : host.isFile command.executable = false) :
      Lacks host config (.notFound command.executable)

section Command

variable {host : Host} {config : Config}

theorem command_eq_ok_iff {tool : List Value} :
    host.command config = .ok tool ↔ host.Offers config tool := by
  rw [command]
  constructor
  · intro h
    split at h
    · rename_i hnone
      split at h
      · cases h
        exact .bundled hnone ‹_›
      · cases h
    · rename_i tool hsome
      split at h
      · rename_i hlocates
        cases h
        exact .configured hsome (by simpa [locates] using hlocates)
      · cases h
  · rintro (⟨hnone, hlexers⟩ | ⟨hsome, hlocated⟩)
    · simp only [hnone, hlexers, if_true]
      rfl
    · simp only [hsome]
      rw [if_pos (by simpa [locates] using hlocated)]
      rfl

theorem command_eq_error_iff {reason : NoTool} :
    host.command config = .error reason ↔ host.Lacks config reason := by
  rw [command]
  constructor
  · intro h
    split at h
    · rename_i hnone
      split at h
      · cases h
      · cases h
        exact .lexers hnone (by simpa using ‹¬ host.hasLexers = true›)
    · rename_i tool hsome
      split at h
      · cases h
      · rename_i hlocates
        cases h
        obtain ⟨hfinds, hfile⟩ : host.finds tool.executable = false ∧
            host.isFile tool.executable = false := by simpa [locates] using hlocates
        exact .executable hsome hfinds hfile
  · rintro (⟨hnone, hlexers⟩ | ⟨hsome, hfinds, hfile⟩)
    · simp [hnone, hlexers]
    · simp [hsome, locates, hfinds, hfile]

theorem command_bundled (hcommand : config.toolCommand = none) (hlexers : host.hasLexers = true) :
    host.command config = .ok host.bundledCommand :=
  command_eq_ok_iff.mpr (.bundled hcommand hlexers)

end Command

theorem collect_eq (stdout stderr : List UInt8) (status : Value) :
    collect stdout stderr status =
      (⟨.text ((Utf8.decode? stdout).getD []), .text (Utf8.decodeReplacing stderr), status⟩,
        if (Utf8.decode? stdout).isSome then [] else [.logged .undecodableOutput]) := by
  rw [collect]
  cases Utf8.decode? stdout <;> rfl

section Runner

variable {host : Host} {config : Config} {tool arguments : List Value} {disk : Disk}

/-- Without a tool nothing is started. -/
theorem launch_of_noTool {reason : NoTool} (htool : host.command config = .error reason) :
    launch (host.runner config) arguments disk =
      ⟨.error (.noTool reason), disk, [.invoked arguments disk]⟩ := by
  simp only [launch, runner, htool, Outcome.failed]

variable (htool : host.command config = .ok tool)
include htool

theorem launch_of_refused {refusal : SpawnRefusal}
    (hstart : host.start (tool ++ arguments) disk = .refused refusal) :
    launch (host.runner config) arguments disk =
      ⟨.error (.noTool (.notStarted ((tool ++ arguments).headD .null) refusal)), disk,
        [.invoked arguments disk, .logged (.running (tool ++ arguments)),
          .started (tool ++ arguments)]⟩ := by
  simp only [launch, runner, htool, hstart, Outcome.failed]

theorem launch_of_broken {failure : Failure}
    (hstart : host.start (tool ++ arguments) disk = .broken failure) :
    launch (host.runner config) arguments disk =
      ⟨.error failure, disk, [.invoked arguments disk, .logged (.running (tool ++ arguments)),
        .started (tool ++ arguments)]⟩ := by
  simp only [launch, runner, htool, hstart, Outcome.failed]

/-- A command that ends with another status than zero: its error output is kept, its output is
not. -/
theorem launch_of_failed {stdout stderr : List UInt8} {status : Int} (hstatus : status ≠ 0)
    (hstart : host.start (tool ++ arguments) disk = .finished stdout stderr (.int status)) :
    launch (host.runner config) arguments disk =
      ⟨.error (.toolFailed (.text (Utf8.decodeReplacing stderr)) (.int status)), disk,
        [.invoked arguments disk, .logged (.running (tool ++ arguments)),
          .started (tool ++ arguments)] ++
          (if (Utf8.decode? stdout).isSome then [] else [.logged .undecodableOutput]) ++
            [.logged (.failedStatus status)]⟩ := by
  have hnumber : (Value.int status).number? ≠ some 0 := by simpa [Value.number?] using hstatus
  simp only [launch, runner, htool, hstart, collect_eq, Outcome.done, if_neg hnumber]
  rfl

/-- A command that ends with status zero: its output is kept, if it can be read. -/
theorem launch_of_finished {stdout stderr : List UInt8}
    (hstart : host.start (tool ++ arguments) disk = .finished stdout stderr (.int 0)) :
    launch (host.runner config) arguments disk =
      ⟨.ok (.text ((Utf8.decode? stdout).getD [])), disk,
        [.invoked arguments disk, .logged (.running (tool ++ arguments)),
          .started (tool ++ arguments)] ++
          if (Utf8.decode? stdout).isSome then [] else [.logged .undecodableOutput]⟩ := by
  have hnumber : (Value.int 0).number? = some 0 := rfl
  simp only [launch, runner, htool, hstart, collect_eq, Outcome.done, if_pos hnumber]
  rfl

/-- A command that ends well, with output that can be read. -/
theorem launch_runner {stdout : Text} {stderr : List UInt8} (hstdout : Utf8.Writable stdout)
    (hstart : host.start (tool ++ arguments) disk =
      .finished (Utf8.encode stdout) stderr (.int 0)) :
    launch (host.runner config) arguments disk =
      ⟨.ok (.text stdout), disk, [.invoked arguments disk,
        .logged (.running (tool ++ arguments)), .started (tool ++ arguments)]⟩ := by
  simp [launch_of_finished htool hstart, Utf8.decode?_encode hstdout]

end Runner

end Host

end LexBridge
