import LexBridge.Proofs.Highlight.Exits

/-!
# How the tokens of a source come out

A source that is handed to a command of the host may come out in six ways. What goes wrong first
decides: there is no scratch file, no tool, or the tool does not start, breaks or ends with a status
other than zero. A later fault is not looked at any more, such as output that cannot be read with a
status that is not zero. Each way out has its result and its warnings, and it is known which command
has been started, if any.

Not everything that keeps a scratch file from being made is told as just that. Where the path holds
a NUL or cannot be encoded, and where a folder for temporary files is needed and there is none, the
caller gets another failure.

## Main definitions

* `Ending`, `Ends`: the ways out, and when they are taken.
* `Ending.result`, `Ending.commands`, `Ending.warnings`: what comes of them.

## Main results

* `tokenize_of_ends`: what comes of each way out.
* `tokenize_ends`: exactly one way out is taken, with what comes of it.
-/

namespace LexBridge

/-! ### Ways out -/

/-- How the tokens of a source come out. -/
inductive Ending
  | noScratch (failure : Scratch.Failure)
  | notLocated (reason : NoTool)
  /-- The command is not there after all, or must not be run. -/
  | notStarted (command : List Value) (refusal : SpawnRefusal)
  /-- The command is not started for another reason. -/
  | broken (command : List Value) (failure : Failure)
  /-- The command ends with a status other than zero. -/
  | failed (command : List Value) (stdout stderr : List UInt8) (status : Int)
  | finished (command : List Value) (stdout : List UInt8)

namespace Ending

/-- What the caller gets. The tool is missing if it is not located and if it is not started; what
breaks a start and what the tool wrote about its failure is handed on. -/
def result : Ending → Except Failure (List Token)
  | noScratch failure => .error (.scratch failure)
  | notLocated reason => .error (.noTool reason)
  | notStarted command refusal => .error (.noTool (.notStarted (command.headD .null) refusal))
  | broken _ failure => .error failure
  | failed _ _ stderr status =>
    .error (.toolFailed (.text (Utf8.decodeReplacing stderr)) (.int status))
  | finished _ stdout =>
    match Utf8.decode? stdout with
    | some output => .ok (decodeOutput output).tokens
    | none => .ok []

/-- The commands that are started. -/
def commands : Ending → List (List Value)
  | noScratch _ | notLocated _ => []
  | notStarted command _ | broken command _ | failed command _ _ _ | finished command _ => [command]

/-- The warnings in the log. -/
def warnings : Ending → List Log.Record
  | failed _ stdout _ _ => if (Utf8.decode? stdout).isSome then [] else [.undecodableOutput]
  | finished _ stdout =>
    match Utf8.decode? stdout with
    | some output => (decodeOutput output).log.filter fun record => record.level = .warning
    | none => [.undecodableOutput]
  | _ => []

end Ending

section Ends

variable (config : Config) (host : Host) (identifier : Text) (lexer : Value) (source : Text)
  (disk : Disk)

/-- When a way out is taken. Each one but the first needs that none before it has been. -/
inductive Ends : Ending → Prop
  | noScratch {failure : Scratch.Failure}
      (refused : (Scratch.enter config identifier source disk).2 = .error failure) :
      Ends (.noScratch failure)
  | notLocated {scratch : Disk} {path : Text} {reason : NoTool}
      (entered : Scratch.enter config identifier source disk = (scratch, .ok path))
      (lacks : host.Lacks config reason) : Ends (.notLocated reason)
  | notStarted {scratch : Disk} {path : Text} {tool : List Value} {refusal : SpawnRefusal}
      (entered : Scratch.enter config identifier source disk = (scratch, .ok path))
      (offers : host.Offers config tool)
      (start : host.start (tool ++ lexArguments lexer path) scratch = .refused refusal) :
      Ends (.notStarted (tool ++ lexArguments lexer path) refusal)
  | broken {scratch : Disk} {path : Text} {tool : List Value} {failure : Failure}
      (entered : Scratch.enter config identifier source disk = (scratch, .ok path))
      (offers : host.Offers config tool)
      (start : host.start (tool ++ lexArguments lexer path) scratch = .broken failure) :
      Ends (.broken (tool ++ lexArguments lexer path) failure)
  | failed {scratch : Disk} {path : Text} {tool : List Value} {stdout stderr : List UInt8}
      {status : Int}
      (entered : Scratch.enter config identifier source disk = (scratch, .ok path))
      (offers : host.Offers config tool)
      (start : host.start (tool ++ lexArguments lexer path) scratch =
        .finished stdout stderr (.int status))
      (nonzero : status ≠ 0) :
      Ends (.failed (tool ++ lexArguments lexer path) stdout stderr status)
  | finished {scratch : Disk} {path : Text} {tool : List Value} {stdout stderr : List UInt8}
      (entered : Scratch.enter config identifier source disk = (scratch, .ok path))
      (offers : host.Offers config tool)
      (start : host.start (tool ++ lexArguments lexer path) scratch =
        .finished stdout stderr (.int 0)) :
      Ends (.finished (tool ++ lexArguments lexer path) stdout)

end Ends

/-! ### One way out -/

variable {config : Config} {host : Host} {identifier : Text} {lexer : Value} {source : Text}
  {disk scratch : Disk} {path : Text}

namespace Ends

/-- Some way out is taken. -/
theorem exists_ending (hstatuses : host.HasStatuses) (config : Config) (identifier : Text)
    (lexer : Value) (source : Text) (disk : Disk) :
    ∃ ending, Ends config host identifier lexer source disk ending := by
  rcases henter : Scratch.enter config identifier source disk with ⟨scratch, failure | path⟩
  · exact ⟨_, .noScratch (congrArg Prod.snd henter)⟩
  cases hcommand : host.command config with
  | error reason => exact ⟨_, .notLocated henter (Host.command_eq_error_iff.mp hcommand)⟩
  | ok tool =>
    have hoffers : host.Offers config tool := Host.command_eq_ok_iff.mp hcommand
    cases hstart : host.start (tool ++ lexArguments lexer path) scratch with
    | refused refusal => exact ⟨_, .notStarted henter hoffers hstart⟩
    | broken failure => exact ⟨_, .broken henter hoffers hstart⟩
    | finished stdout stderr status =>
      obtain ⟨code, rfl⟩ := hstatuses _ _ _ _ _ hstart
      by_cases hcode : code = 0
      · subst hcode
        exact ⟨_, .finished henter hoffers hstart⟩
      · exact ⟨_, .failed henter hoffers hstart hcode⟩

/-- No two ways out are taken. -/
theorem unique {a b : Ending} (ha : Ends config host identifier lexer source disk a)
    (hb : Ends config host identifier lexer source disk b) : a = b := by
  -- two ways agree in what the stages came to that both have passed, and differ in no other stage
  cases ha <;> cases hb <;> simp_all [← Host.command_eq_error_iff, ← Host.command_eq_ok_iff]

end Ends

/-! ### What comes of it -/

/-- With its scratch file, the tokens of a source are those of the answer of the tool. Its notes
tell what is started, and its warnings stand before those of the decoder. -/
theorem tokenize_of_launch {answer : Outcome Value}
    (henter : Scratch.enter config identifier source disk = (scratch, .ok path))
    (hanswer : launch (host.runner config) (lexArguments lexer path) scratch = answer) :
    let outcome := tokenize config (host.runner config) identifier lexer source disk
    let decoded := answer.result.bind fun output => (decodeOutputValue output).mapError .badValue
    outcome.result = decoded.map (·.tokens) ∧ outcome.journal.commands = answer.journal.commands ∧
      outcome.journal.warnings = answer.journal.warnings ++
        (decoded.toOption.elim [] (·.log)).filter fun record => record.level = .warning := by
  obtain ⟨-, hresult, hjournal⟩ := tokenize_of_enter_eq_ok (host.runner config) lexer henter
  rw [hanswer] at hresult hjournal
  refine ⟨hresult, ?_, ?_⟩
  · simp [hjournal]
  · simp [hjournal, Journal.warnings, Log.Record.level]

/-- **What comes of each way out.** -/
theorem tokenize_of_ends {ending : Ending}
    (h : Ends config host identifier lexer source disk ending) :
    let outcome := tokenize config (host.runner config) identifier lexer source disk
    outcome.result = ending.result ∧ outcome.journal.commands = ending.commands ∧
      outcome.journal.warnings = ending.warnings := by
  cases h with
  | noScratch refused =>
    rcases henter : Scratch.enter config identifier source disk with ⟨left, result⟩
    rw [henter] at refused
    obtain rfl : result = _ := refused
    rw [tokenize_of_enter_eq_error henter]
    exact ⟨rfl, rfl, rfl⟩
  | notLocated entered lacks =>
    exact tokenize_of_launch entered
      (Host.launch_of_noTool (Host.command_eq_error_iff.mpr lacks))
  | notStarted entered offers start =>
    exact tokenize_of_launch entered
      (Host.launch_of_refused (Host.command_eq_ok_iff.mpr offers) start)
  | broken entered offers start =>
    exact tokenize_of_launch entered
      (Host.launch_of_broken (Host.command_eq_ok_iff.mpr offers) start)
  | failed entered offers start nonzero =>
    obtain ⟨hresult, hcommands, hwarnings⟩ := tokenize_of_launch entered
      (Host.launch_of_failed (Host.command_eq_ok_iff.mpr offers) nonzero start)
    refine ⟨hresult, ?_, ?_⟩
    · rw [hcommands]
      split <;> rfl
    · rw [hwarnings, Ending.warnings]
      split <;> rfl
  | @finished _ _ _ stdout _ entered offers start =>
    obtain ⟨hresult, hcommands, hwarnings⟩ := tokenize_of_launch entered
      (Host.launch_of_finished (Host.command_eq_ok_iff.mpr offers) start)
    refine ⟨hresult.trans ?_, hcommands.trans ?_, hwarnings.trans ?_⟩
    · rw [Ending.result]
      cases Utf8.decode? stdout <;> rfl
    · split <;> rfl
    · rw [Ending.warnings]
      cases Utf8.decode? stdout <;> rfl

/-- **The tokens of a source come out in exactly one of six ways**, and the first fault decides
which. A source for which there is no scratch file, or no tool, starts no command. Where there is no
scratch file it is known why, and it is told just if nothing is wrong with the path itself. -/
theorem tokenize_ends (hdirectory : config.HasDirectory) (hstatuses : host.HasStatuses)
    (identifier : Text) (lexer : Value) (source : Text) (disk : Disk) :
    (∃! ending, Ends config host identifier lexer source disk ending) ∧
      ∀ ending, Ends config host identifier lexer source disk ending →
        (let outcome := tokenize config (host.runner config) identifier lexer source disk
         outcome.result = ending.result ∧ outcome.journal.commands = ending.commands ∧
          outcome.journal.warnings = ending.warnings) ∧
        ∀ failure, ending = .noScratch failure → failure.Explained config identifier disk := by
  obtain ⟨ending, hending⟩ := Ends.exists_ending hstatuses config identifier lexer source disk
  refine ⟨⟨ending, hending, fun other hother => hother.unique hending⟩, fun ending hends => ?_⟩
  refine ⟨tokenize_of_ends hends, ?_⟩
  rintro failure rfl
  cases hends with
  | noScratch refused => exact Scratch.explained_of_enter hdirectory refused

/-- A host whose commands end with status three and write nothing that can be read. -/
def Host.failing : Host where
  interpreter := Text.of "python"
  hasLexers := true
  finds _ := false
  isFile _ := false
  start _ _ := .finished [0xFF] [0x6F] (.int 3)

theorem tokenize_ends_failing :
    let outcome := tokenize .default (Host.failing.runner .default) (Text.of "1") .null [] .bare
    Config.default.HasDirectory ∧ Host.failing.HasStatuses ∧
      outcome.result = .error (.toolFailed (.text (Text.of "o")) (.int 3)) ∧
        outcome.journal.warnings = [.undecodableOutput] := by
  intro outcome
  have hdirectory : Config.default.HasDirectory := Or.inl rfl
  have hstatuses : Host.failing.HasStatuses := by
    rintro command disk stdout stderr status h
    cases h
    exact ⟨3, rfl⟩
  obtain ⟨-, hends⟩ := tokenize_ends hdirectory hstatuses (Text.of "1") .null [] .bare
  have henter : Scratch.enter .default (Text.of "1") [] .bare =
      (Disk.bare.adding [Utf8.encode (Text.of "tmp"), Utf8.encode (Text.of "pygktmp.1")] [],
        .ok (Text.of "tmp/pygktmp.1")) := by
    decide +kernel
  obtain ⟨⟨hresult, -, hwarnings⟩, -⟩ :=
    hends _ (.failed henter (.bundled rfl rfl) rfl (by decide))
  exact ⟨hdirectory, hstatuses, hresult, hwarnings⟩

/-- A beginning of names that cannot be encoded, and a machine without a folder for temporary files:
in both cases the call fails before a command is started, and what the caller gets is not told as a
failure to make the scratch file. -/
theorem tokenize_passes_scratch_failures :
    let config : Config := { Config.default with tempPrefix := .text [0xD800] }
    let folderless : Disk := { Disk.bare with tempDir := .missing [Text.of "/tmp"] }
    let ask (config : Config) (disk : Disk) := tokenize config (Host.failing.runner config)
      (Text.of "1") (.text (Text.of "python")) (Text.of "x") disk
    let unencodable : Scratch.Failure := .unencodable ⟨0xD800, 4, 0⟩
    let noDirectory : Scratch.Failure := .noDirectory [Text.of "/tmp"]
    ((ask config .bare).result = .error (.scratch unencodable) ∧
        (ask config .bare).journal.commands = [] ∧ unencodable.isTold = false) ∧
      (ask .default folderless).result = .error (.scratch noDirectory) ∧
        (ask .default folderless).journal.commands = [] ∧ noDirectory.isTold = false := by
  decide +kernel

end LexBridge
