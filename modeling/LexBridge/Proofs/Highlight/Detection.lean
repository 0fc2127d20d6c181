import LexBridge.Proofs.Highlight.Bundled
import LexBridge.Proofs.Text.Cutting
import LexBridge.Proofs.Tool.Exits

/-!
# Which lexer is found for a file name

Only the last part of a file name reaches the tool, so it does not matter in which folder a file
lies. The name is passed behind its option as an argument of its own. The tool takes it for the
value of that option, unless the name looks like an option itself: then the option has no value, the
tool ends with a message about its usage, and this is what the search for a lexer fails with.

## Main definitions

* `BundledTool`: the bundled tool is what is run.

## Main results

* `Path.name_ofText_append`: the last part of a file name.
* `Tool.Arguments.parse_guessArguments`, `Tool.Arguments.parse_guessArguments_of_looksLikeOption`:
  how the tool understands the question.
* `findLexer_bundled`: the answer, and when there is none.
-/

namespace LexBridge

/-! ### Names -/

/-- **The last part of a file name does not depend on the folder.** -/
theorem Path.name_ofText_append {base : Text} (hne : base ≠ []) (hdot : base ≠ [0x2E])
    (hslash : 0x2F ∉ base) (folder : Text) :
    (Path.ofText (folder ++ 0x2F :: base)).name = base := by
  simp [Path.ofText, Path.name, Text.splitOn_append_separator, Text.splitOn_of_notMem hslash, hne,
    hdot]

theorem Path.name_ofText {base : Text} (hne : base ≠ []) (hdot : base ≠ [0x2E])
    (hslash : 0x2F ∉ base) : (Path.ofText base).name = base := by
  simp [Path.ofText, Path.name, Text.splitOn_of_notMem hslash, hne, hdot]

/-- The search for a lexer looks at the last part of a file name only, whatever the runner is. -/
theorem findLexer_of_name_eq {a b : Text} (h : (Path.ofText a).name = (Path.ofText b).name)
    (runner : Runner) (disk : Disk) : findLexer runner a disk = findLexer runner b disk := by
  rw [findLexer, findLexer, h]

theorem findLexer_append {base : Text} (hne : base ≠ []) (hdot : base ≠ [0x2E])
    (hslash : 0x2F ∉ base) (folder : Text) (runner : Runner) (disk : Disk) :
    findLexer runner (folder ++ 0x2F :: base) disk = findLexer runner base disk :=
  findLexer_of_name_eq ((Path.name_ofText_append hne hdot hslash folder).trans
    (Path.name_ofText hne hdot hslash).symm) runner disk

/-! ### The question -/

namespace Tool

variable {name : Text}

/-- A name that does not look like an option is the value of the option before it. -/
theorem Arguments.parse_guessArguments (h : ¬ LooksLikeOption name) :
    Arguments.parse (guessArguments name) = .ok ⟨.null, .null, .text name, .null⟩ := by
  have hne : name ≠ divider := by
    rintro rfl
    exact h looksLikeOption_divider
  rw [parse, guessArguments, items_text_cons (by decide) (items_text_cons hne rfl),
    textItem_eq_plain_iff.mpr h]
  rfl

/-- **A name that looks like an option leaves the option before it without a value.** -/
theorem Arguments.parse_guessArguments_of_looksLikeOption (h : LooksLikeOption name) :
    Arguments.parse (guessArguments name) = .error (.wrong (.expectedOne .guess)) := by
  by_cases hdivider : name = divider
  · subst hdivider
    rfl
  · rw [parse, guessArguments, items_text_cons (by decide) (items_text_cons hdivider rfl)]
    have hreads := reads_textItem name
    generalize textItem name = it at hreads
    cases hreads with
    | plain hplain => exact absurd h hplain
    | letter | longHelp | unknown => rfl

variable {catalog : Catalog} {read : Text → Except Disk.Refusal (List UInt8)}

theorem invoke_guessArguments (h : ¬ LooksLikeOption name) :
    invoke catalog read (guessArguments name) =
      ⟨catalog.guess name ++ [0x0A], [], .status 0⟩ :=
  invoke_of_guess_ne_null (Arguments.parse_guessArguments h) nofun

/-- What the tool says where its option for a file name is left without one. -/
def nameMissing : Text :=
  usage ++ Text.of "pygkit-tool: error: " ++ (UsageError.expectedOne .guess).message ++ [0x0A]

theorem writable_nameMissing : Utf8.Writable nameMissing := by
  have hend : Utf8.Writable [0x0A] := by decide
  simp [nameMissing, usage, UsageError.message, Flag.name, hend]

theorem invoke_guessArguments_of_looksLikeOption (h : LooksLikeOption name) :
    invoke catalog read (guessArguments name) = ⟨[], nameMissing, .status 2⟩ := by
  simp only [invoke, Request.parse, Arguments.parse_guessArguments_of_looksLikeOption h]
  rfl

theorem Catalog.guess_eq (catalog : Catalog) (filename : Text) :
    catalog.guess filename = ((catalog.aliases? filename).bind List.head?).getD fallbackLexer := by
  rw [guess]
  rcases catalog.aliases? filename with - | - | ⟨first, others⟩ <;> rfl

end Tool

/-! ### The answer -/

/-- The bundled tool is what is run: no other one is configured, the lexers that it needs are
installed, and starting its command is an invocation of it. -/
structure BundledTool (config : Config) (host : Host) (catalog : Tool.Catalog) : Prop where
  no_command : config.toolCommand = none
  has_lexers : host.hasLexers = true
  starts_tool : ∀ arguments disk, host.start (host.bundledCommand ++ arguments) disk =
    Tool.start catalog (host.bundledCommand ++ arguments) disk

namespace BundledTool

variable {config : Config} {host : Host} {catalog : Tool.Catalog} {filename : Text} (disk : Disk)
  (tool : BundledTool config host catalog)
include tool

theorem start_eq {name : Text} {exit : Tool.Exit} {code : Nat}
    (hinvoke : Tool.invoke catalog disk.read (guessArguments name) = exit)
    (hstatus : exit.ending = .status code) :
    host.start (host.bundledCommand ++ guessArguments name) disk =
      .finished (Utf8.encode exit.stdout) (Utf8.encode exit.stderr) (.int code) := by
  have harguments : (host.bundledCommand ++ guessArguments name).drop 3 = guessArguments name := rfl
  simp only [tool.starts_tool, Tool.start, harguments, hinvoke, hstatus]

/-- The first name of the lexer is what is found, without blanks around it, if it can be printed. -/
theorem result_findLexer (h : ¬ Tool.LooksLikeOption (Path.ofText filename).name)
    (hfound : Utf8.Writable (catalog.guess (Path.ofText filename).name)) :
    let found := catalog.guess (Path.ofText filename).name
    (findLexer (host.runner config) filename disk).result =
      .ok (if found.trim = [] then none else some found.trim) := by
  intro found
  have hwritable : Utf8.Writable (found ++ [0x0A]) :=
    Utf8.writable_append_iff.mpr ⟨hfound, by decide⟩
  have hlaunch := Host.launch_runner (Host.command_bundled tool.no_command tool.has_lexers)
    hwritable (tool.start_eq disk (Tool.invoke_guessArguments h) rfl)
  have htrim : (found ++ [0x0A]).trim = found.trim := Text.trim_append_blank (by decide) found
  simp only [findLexer, hlaunch, Except.bind, printedName, htrim]

/-- A name that looks like an option leads to no lexer, but to the message of the tool about its
usage. -/
theorem result_findLexer_of_looksLikeOption
    (h : Tool.LooksLikeOption (Path.ofText filename).name) :
    (findLexer (host.runner config) filename disk).result =
      .error (.toolFailed (.text Tool.nameMissing) (.int 2)) := by
  have hlaunch := Host.launch_of_failed (Host.command_bundled tool.no_command tool.has_lexers)
    (by decide) (tool.start_eq disk (Tool.invoke_guessArguments_of_looksLikeOption h) rfl)
  simp only [findLexer, hlaunch, Except.bind, Utf8.decodeReplacing_encode Tool.writable_nameMissing]
  rfl

end BundledTool

/-- **The lexer that is found for a file name.** It is the first one that the tool knows for the
last part of the name, or the one for plain text if it knows none, and a name that is nothing but
blanks is none. There is an answer, if that name can be printed, unless the last part looks like an
option: the tool then misses the value of its own option and fails. In which folder the file lies
never matters. -/
theorem findLexer_bundled {config : Config} {host : Host} {catalog : Tool.Catalog}
    (tool : BundledTool config host catalog) (filename : Text) (disk : Disk) :
    let name := (Path.ofText filename).name
    let found := ((catalog.aliases? name).bind List.head?).getD (Text.of "text")
    let result := (findLexer (host.runner config) filename disk).result
    (¬ Tool.LooksLikeOption name → Utf8.Writable found →
        result = .ok (if found.trim = [] then none else some found.trim)) ∧
      (Tool.LooksLikeOption name →
        result = .error (.toolFailed (.text Tool.nameMissing) (.int 2))) ∧
      ∀ folder base, base ≠ [] → base ≠ [0x2E] → 0x2F ∉ base → ∀ (runner : Runner) (disk : Disk),
        findLexer runner (folder ++ 0x2F :: base) disk = findLexer runner base disk := by
  refine ⟨fun h hfound => ?_, tool.result_findLexer_of_looksLikeOption disk,
    fun folder base hne hdot hslash => findLexer_append hne hdot hslash folder⟩
  have hresult := tool.result_findLexer disk h (by rwa [Tool.Catalog.guess_eq])
  rwa [Tool.Catalog.guess_eq] at hresult

/-- A catalog that knows a lexer for two file names. -/
def Tool.Catalog.python : Tool.Catalog :=
  { lexer? := fun _ => none
    aliases? := fun filename =>
      if filename = Text.of "x.py" ∨ filename = Text.of "-x.py" then some [Text.of "python"]
      else none }

theorem bundledTool_python : BundledTool .default (.bare .python) .python where
  no_command := rfl
  has_lexers := rfl
  starts_tool _ _ := rfl

theorem findLexer_python :
    (findLexer ((Host.bare .python).runner .default) (Text.of "src/x.py") .bare).result =
      .ok (some (Text.of "python")) :=
  (findLexer_bundled bundledTool_python (Text.of "src/x.py") .bare).1
    (fun h => absurd h.1 (by decide)) (Utf8.writable_of "python")

/-- **A file name may look like an option.** The tool knows the lexer, and it is not found. -/
theorem findLexer_python_dash :
    Tool.Catalog.python.aliases? (Path.ofText (Text.of "-x.py")).name = some [Text.of "python"] ∧
      (findLexer ((Host.bare .python).runner .default) (Text.of "-x.py") .bare).result ≠
        .ok (some (Text.of "python")) := by
  refine ⟨by decide, ?_⟩
  rw [bundledTool_python.result_findLexer_of_looksLikeOption]
  · nofun
  · exact ⟨by decide, by decide, Or.inr (Or.inr (by decide))⟩

end LexBridge
