import LexBridge.Proofs.Highlight.Tokens
import LexBridge.Proofs.Host
import LexBridge.Proofs.Journal
import LexBridge.Proofs.Range.Callbacks
import LexBridge.Proofs.Scratch.Basic

/-!
# Every way out leaves the disk as it was

A source is on the disk for as long as the runner is asked about it, and no longer. It does not
matter how the call ends: without a scratch file, by a failure of the runner, by a status that is
not zero, by output that nobody can read, or by an error of the callback, which is asked when the
scratch file is gone already.

Of the runner nothing is asked but that it touches no other file. It may answer with any values or
fail, and it may delete the scratch file itself.

## Main definitions

* `Runner.Tidy`: a runner that touches no file but the one that it is asked about.
* `Outcome.LeavesNoTrace`, `Highlighted.LeavesNoTrace`: what a call, and a call with a callback,
  does to its surroundings.

## Main results

* `tokenize_of_enter_eq_error`, `tokenize_of_enter_eq_ok`: the tokens of a source without and with
  its scratch file.
* `highlighting_leaves_no_trace`: all three calls leave no trace.
-/

namespace LexBridge

/-! ### Surroundings -/

/-- A runner that touches no file but the one that it is asked about, and that one only to delete
it. It answers as it likes, and its own notes are not about runners and callbacks. -/
structure Runner.Tidy (runner : Runner) : Prop where
  disk_eq : ∀ lexer path disk,
    (runner (lexArguments lexer path) disk).disk = disk ∨
      (runner (lexArguments lexer path) disk).disk = disk.remove path
  invocations_eq : ∀ arguments disk, (runner arguments disk).journal.invocations = []
  calls_eq : ∀ arguments disk, (runner arguments disk).journal.calls = []

section Surroundings

variable {α : Type} (config : Config) (runner : Runner) (identifier : Text) (lexer : Value)
  (source : Text) (disk : Disk)

/-- What a call about a source does to its surroundings. The disk is what it was. With a scratch
file, where there was none before, the runner is asked once, while the file holds the source, and
what it fails with is what the call fails with. Without one the runner is not asked at all. -/
structure Outcome.LeavesNoTrace (outcome : Outcome α) : Prop where
  disk_eq : outcome.disk = disk
  asked : ∀ {scratch path}, Scratch.enter config identifier source disk = (scratch, .ok path) →
    disk.read path = .error .missing ∧ scratch.read path = .ok (Utf8.encode source) ∧
      outcome.journal.invocations = [(lexArguments lexer path, scratch)] ∧
        ∀ failure, (runner (lexArguments lexer path) scratch).result = .error failure →
          outcome.result = .error failure
  refused : ∀ {left failure}, Scratch.enter config identifier source disk = (left, .error failure) →
    outcome.journal.invocations = [] ∧ outcome.result = .error (.scratch failure)

/-- What a call with a callback does to its surroundings, if the callback has got its calls while
the disk was as given with each of them, and has answered them in the given way. All calls are made
on the disk as it was before there was a scratch file. There are none unless the runner has answered
with status zero, and the error that the callback answers with is what the call fails with. -/
structure Highlighted.LeavesNoTrace (highlighted : Highlighted α) (calls : List (α × Disk))
    (replies : List (Reply Failure)) : Prop where
  outcome : highlighted.outcome.LeavesNoTrace config runner identifier lexer source disk
  calls_eq : calls = highlighted.calls.map fun call => (call, disk)
  calls_eq_nil :
    (∀ scratch path answer, Scratch.enter config identifier source disk = (scratch, .ok path) →
      (runner (lexArguments lexer path) scratch).result = .ok answer →
        answer.status.number? ≠ some 0) →
      highlighted.calls = []
  result_eq : ∀ failure, .fail failure ∈ replies → highlighted.outcome.result = .error failure

end Surroundings

namespace Outcome

/-- A call that goes on after another one, without touching the disk and without asking the runner,
leaves no trace either if it passes failures on. -/
theorem LeavesNoTrace.of_outcome {α β : Type} {config : Config} {runner : Runner}
    {identifier : Text} {lexer : Value} {source : Text} {disk : Disk} {first : Outcome α}
    {whole : Outcome β}
    (h : first.LeavesNoTrace config runner identifier lexer source disk)
    (hdisk : whole.disk = first.disk)
    (hinvocations : whole.journal.invocations = first.journal.invocations)
    (hresult : ∀ failure, first.result = .error failure → whole.result = .error failure) :
    whole.LeavesNoTrace config runner identifier lexer source disk where
  disk_eq := hdisk.trans h.disk_eq
  asked henter := by
    obtain ⟨hmissing, hread, hasked, hfails⟩ := h.asked henter
    exact ⟨hmissing, hread, hinvocations.trans hasked,
      fun failure hfailure => hresult failure (hfails failure hfailure)⟩
  refused henter := by
    obtain ⟨hasked, hfails⟩ := h.refused henter
    exact ⟨hinvocations.trans hasked, hresult _ hfails⟩

end Outcome

/-! ### Tokens -/

variable {config : Config} {runner : Runner} {identifier : Text} {lexer : Value}
  {source path : Text} {disk scratch : Disk}

theorem tokenize_of_enter_eq_error {failure : Scratch.Failure}
    (h : Scratch.enter config identifier source disk = (scratch, .error failure)) :
    tokenize config runner identifier lexer source disk =
      ⟨.error (.scratch failure), disk, []⟩ := by
  obtain rfl := Scratch.disk_of_enter_eq_error h
  simp only [tokenize, Scratch.within, h, Outcome.failed, Except.bind]

/-- **The tokens of a source with its scratch file**: the runner is asked between making the file
and removing it, and its output is decoded after that. -/
theorem tokenize_of_enter_eq_ok (runner : Runner) (lexer : Value)
    (h : Scratch.enter config identifier source disk = (scratch, .ok path)) :
    let answer := launch runner (lexArguments lexer path) scratch
    let outcome := tokenize config runner identifier lexer source disk
    let decoded := answer.result.bind fun output => (decodeOutputValue output).mapError .badValue
    outcome.disk = Scratch.leave path answer.disk ∧ outcome.result = decoded.map (·.tokens) ∧
      outcome.journal = .logged (.scratchCreated path) :: answer.journal ++
        .logged (.scratchRemoved path) :: (decoded.toOption.elim [] (·.log)).map .logged := by
  simp only [tokenize, Scratch.within_of_enter h]
  split
  · rename_i failure hdecoded
    simp [hdecoded, Except.map, Except.toOption]
  · rename_i decoded hdecoded
    simp [hdecoded, Except.map, Except.toOption]

/-- There are tokens only if the runner has answered with status zero. -/
theorem exists_answer_of_tokenize {tokens : List Token}
    (h : (tokenize config runner identifier lexer source disk).result = .ok tokens) :
    ∃ scratch path answer, Scratch.enter config identifier source disk = (scratch, .ok path) ∧
      (runner (lexArguments lexer path) scratch).result = .ok answer ∧
        answer.status.number? = some 0 := by
  rcases henter : Scratch.enter config identifier source disk with ⟨scratch, failure | path⟩
  · rw [tokenize_of_enter_eq_error henter] at h
    cases h
  · obtain ⟨-, hresult, -⟩ := tokenize_of_enter_eq_ok runner lexer henter
    rw [h] at hresult
    refine ⟨scratch, path, ?_⟩
    rcases launch_cases runner (lexArguments lexer path) scratch with
      ⟨failure, -, hlaunch⟩ | ⟨answer, hanswer, hstatus, -⟩ | ⟨answer, failure, -, -, hlaunch⟩
    · simp [hlaunch, Except.bind, Except.map] at hresult
    · exact ⟨answer, rfl, hanswer, hstatus⟩
    · simp [hlaunch, Except.bind, Except.map] at hresult

theorem calls_tokenize (hrunner : runner.Tidy) :
    (tokenize config runner identifier lexer source disk).journal.calls = [] := by
  rcases henter : Scratch.enter config identifier source disk with ⟨scratch, failure | path⟩
  · rw [tokenize_of_enter_eq_error henter]
    rfl
  · obtain ⟨-, -, hjournal⟩ := tokenize_of_enter_eq_ok runner lexer henter
    obtain ⟨records, hlaunch⟩ := journal_launch runner (lexArguments lexer path) scratch
    simp [hjournal, hlaunch, hrunner.calls_eq]

/-- **The tokens of a source are obtained without a trace.** -/
theorem leavesNoTrace_tokenize (hrunner : runner.Tidy) :
    (tokenize config runner identifier lexer source disk).LeavesNoTrace config runner identifier
      lexer source disk := by
  rcases henter : Scratch.enter config identifier source disk with ⟨scratch, failure | path⟩
  · -- there is no scratch file, and nothing happens at all
    rw [tokenize_of_enter_eq_error henter]
    refine ⟨rfl, fun h => ?_, fun h => ⟨rfl, ?_⟩⟩
    · cases henter.symm.trans h
    · cases henter.symm.trans h
      rfl
  · obtain ⟨hdisk, hresult, hjournal⟩ := tokenize_of_enter_eq_ok runner lexer henter
    refine ⟨?_, fun h => ?_, fun h => ?_⟩
    · obtain ⟨hkept, hdeleted⟩ := Scratch.leave_of_enter henter
      rw [hdisk, disk_launch]
      rcases hrunner.disk_eq lexer path scratch with h | h
      · rw [h, hkept]
      · rw [h, hdeleted]
    · cases henter.symm.trans h
      refine ⟨Scratch.read_before_enter henter, Scratch.read_of_enter henter, ?_, ?_⟩
      · obtain ⟨records, hlaunch⟩ := journal_launch runner (lexArguments lexer path) scratch
        simp [hjournal, hlaunch, hrunner.invocations_eq]
      · intro failure hfailure
        have hlaunch : (launch runner (lexArguments lexer path) scratch).result =
            .error failure := by simp only [launch, hfailure]
        rw [hresult, hlaunch]
        rfl
    · cases henter.symm.trans h

/-! ### Callbacks -/

section Callbacks

variable {σ : Type} (callback : Callback σ Located Failure) (state : σ)

/-- **A source is parsed without a trace**, whatever the callback answers. -/
theorem leavesNoTrace_parse (hrunner : runner.Tidy) :
    let highlighted := parse config runner identifier lexer source callback state disk
    highlighted.LeavesNoTrace config runner identifier lexer source disk
      highlighted.outcome.journal.calls (callback.replies state highlighted.calls) := by
  have htokens : (tokenize config runner identifier lexer source disk).LeavesNoTrace config runner
      identifier lexer source disk := leavesNoTrace_tokenize hrunner
  have hnone : (tokenize config runner identifier lexer source disk).journal.calls = [] :=
    calls_tokenize hrunner
  intro highlighted
  cases hresult : (tokenize config runner identifier lexer source disk).result with
  | error failure =>
    have hparse : highlighted = _ := parse_of_error callback state hresult
    rw [hparse]
    refine ⟨htokens.of_outcome rfl rfl fun other hother => ?_, hnone, fun _ => rfl, nofun⟩
    rw [Except.error.inj (hresult.symm.trans hother)]
  | ok tokens =>
    have hparse : highlighted = _ := parse_of_ok callback state hresult
    rw [hparse]
    refine ⟨htokens.of_outcome rfl ?_ ?_, ?_, ?_, ?_⟩
    · simp
    · intro failure hfailure
      cases hresult.symm.trans hfailure
    · simp [hnone, htokens.disk_eq]
    · intro hstatus
      obtain ⟨scratch, path, answer, henter, hanswer, hzero⟩ := exists_answer_of_tokenize hresult
      exact absurd hzero (hstatus scratch path answer henter hanswer)
    · intro failure hfailure
      rw [← Callback.failure_consume_eq_some_iff] at hfailure
      rw [hfailure, Option.elim_some]

end Callbacks

/-- What a callback for styled tokens answers to its calls decides how the call ends. -/
theorem result_parseWithTheme_of_reply {σ : Type} {theme : Theme}
    {callback : Callback σ Styled Failure} {state : σ} {failure : Failure}
    (h : .fail failure ∈ callback.replies state
      (parseWithTheme config runner identifier lexer source theme callback state disk).calls) :
    (parseWithTheme config runner identifier lexer source theme callback state
      disk).outcome.result = .error failure := by
  cases hresult : (tokenize config runner identifier lexer source disk).result with
  | error other => simp [parseWithTheme, parse_of_error _ _ hresult, Callback.replies] at h
  | ok tokens =>
    have hparse := parse_of_ok (callback.styled theme) state hresult
    obtain ⟨hcalls, hfailure⟩ := Callback.consume_styled theme callback
      ((⟨0, source⟩ : Place).located config.offsetUnits tokens) state
    simp only [parseWithTheme, hparse] at h ⊢
    rw [hcalls, ← Callback.failure_consume_eq_some_iff] at h
    rw [hfailure, h, Option.elim_some]

/-- **A source is styled without a trace**, whatever the theme and the callback answer. -/
theorem leavesNoTrace_parseWithTheme (hrunner : runner.Tidy) {σ : Type} (theme : Theme)
    (callback : Callback σ Styled Failure) (state : σ) :
    let highlighted :=
      parseWithTheme config runner identifier lexer source theme callback state disk
    highlighted.LeavesNoTrace config runner identifier lexer source disk
      (highlighted.outcome.journal.calls.filterMap fun moment =>
        (moment.1.styled? theme).map fun styled => (styled, moment.2))
      (callback.replies state highlighted.calls) := by
  intro highlighted
  have hparsed : (parse config runner identifier lexer source (callback.styled theme) state
      disk).LeavesNoTrace config runner identifier lexer source disk _ _ :=
    leavesNoTrace_parse (callback.styled theme) state hrunner
  obtain ⟨houtcome, hcalls, hnone, -⟩ := hparsed
  refine ⟨houtcome, ?_, fun hstatus => ?_, fun failure => result_parseWithTheme_of_reply⟩
  · simp only [highlighted, parseWithTheme, hcalls, List.filterMap_map, List.map_filterMap,
      Function.comp_def]
  · simp only [highlighted, parseWithTheme, hnone hstatus, List.filterMap_nil]

/-! ### All three calls -/

/-- **Highlighting leaves no trace on the disk.** Whether a source is cut into tokens, parsed or
styled, with any configuration, any disk, any runner that touches no other file and any callbacks:
afterwards the disk is what it was, the runner has been asked once if there was a scratch file and
not otherwise, its failure or that of the callback is what the call ends in, and no callback was
asked while the scratch file was there. -/
theorem highlighting_leaves_no_trace (hrunner : runner.Tidy) {σ τ : Type}
    (config : Config) (identifier : Text) (lexer : Value) (source : Text) (disk : Disk)
    (callback : Callback σ Located Failure) (state : σ) (theme : Theme)
    (painter : Callback τ Styled Failure) (start : τ) :
    (tokenize config runner identifier lexer source disk).LeavesNoTrace config runner identifier
        lexer source disk ∧
      (let parsed := parse config runner identifier lexer source callback state disk
       parsed.LeavesNoTrace config runner identifier lexer source disk
        parsed.outcome.journal.calls (callback.replies state parsed.calls)) ∧
      (let styled := parseWithTheme config runner identifier lexer source theme painter start disk
       styled.LeavesNoTrace config runner identifier lexer source disk
        (styled.outcome.journal.calls.filterMap fun moment =>
          (moment.1.styled? theme).map fun call => (call, moment.2))
        (painter.replies start styled.calls)) :=
  ⟨leavesNoTrace_tokenize hrunner, leavesNoTrace_parse callback state hrunner,
    leavesNoTrace_parseWithTheme hrunner theme painter start⟩

/-- A runner that prints one row for any file, and deletes the file itself. -/
def Runner.hasty : Runner := fun arguments disk =>
  ⟨.ok ⟨.text (Text.of "Token.Text\t'61'\n"), .text [], .int 0⟩,
    match arguments.getLast? with
    | some (.text path) => disk.remove path
    | _ => disk, []⟩

theorem highlighting_leaves_no_trace_hasty :
    let disk := Disk.bare.adding [Utf8.encode (Text.of "kept")] [0x61]
    let parsed := parse .default .hasty (Text.of "1") .null (Text.of "a")
      (fun _ _ => (.fail (.foreign [] []), ())) () disk
    Runner.hasty.Tidy ∧ parsed.calls = [⟨⟨0, 1⟩, ⟨.text, Text.of "a"⟩⟩] ∧
      parsed.outcome.disk = disk ∧ parsed.outcome.result = .error (.foreign [] []) := by
  intro disk parsed
  have htidy : Runner.hasty.Tidy :=
    ⟨fun _ _ _ => Or.inr rfl, fun _ _ => rfl, fun _ _ => rfl⟩
  have hcalls : parsed.calls = [⟨⟨0, 1⟩, ⟨.text, Text.of "a"⟩⟩] := by decide +kernel
  have htrace := (highlighting_leaves_no_trace htidy .default (Text.of "1") .null (Text.of "a") disk
    (fun _ _ => (.fail (.foreign [] []), ())) () (fun _ => none) .always ()).2.1
  refine ⟨htidy, hcalls, htrace.outcome.disk_eq, htrace.result_eq _ ?_⟩
  rw [hcalls]
  exact List.mem_singleton_self _

end LexBridge
