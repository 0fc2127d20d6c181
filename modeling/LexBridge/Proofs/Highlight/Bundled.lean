import LexBridge.Lexer.Rotation
import LexBridge.Proofs.Highlight.Tokens
import LexBridge.Proofs.Host
import LexBridge.Proofs.Range.Tiling
import LexBridge.Proofs.Scratch.Basic
import LexBridge.Proofs.Tool.Invocation

/-!
# Runs of the bundled tool

What a source goes through when the bundled tool lexes it: it is written to a scratch file, the tool
reads it back and hands it to the lexer, the rows of the lexer are written in hexadecimal, and they
are decoded into tokens. Nothing is lost on this way. The tokens are those that the rows of the
lexer stand for, and if the lexer has kept the text of the source, their ranges tile it.

Of the lexer itself nothing is asked but that its rows are plain: their names must not take a line
apart, and names and fragments must be such that they can be written at all.

## Main definitions

* `BundledRun`: a run of the bundled tool in which nothing is in the way.

## Main results

* `BundledRun.tokenize_eq`: result and journal of the whole run.
* `tokenize_bundled`: the tokens are those of the rows, without a warning.
* `parse_bundled`: the calls tile the source.
-/

namespace LexBridge

/-! ### The run -/

/-- A run of the bundled tool in which nothing is in the way: the bundled tool is what is run, it
knows the lexer, the scratch file can be made, neither the name of the lexer nor the path of the
file looks like an option, the source can be written, and the rows of the lexer are plain. -/
structure BundledRun (config : Config) (host : Host) (catalog : Tool.Catalog) (identifier : Text)
    (name : Text) (lexer : Lexer) (source path : Text) (disk : Disk) : Prop where
  no_command : config.toolCommand = none
  has_lexers : host.hasLexers = true
  starts_tool : ∀ arguments disk, host.start (host.bundledCommand ++ arguments) disk =
    Tool.start catalog (host.bundledCommand ++ arguments) disk
  knows_lexer : catalog.lexer? name = some lexer
  name_ne_nil : name ≠ []
  name_head : name.head? ≠ some Tool.dash
  path_eq : Scratch.path config disk identifier = .ok path
  path_head : path.head? ≠ some Tool.dash
  creates : ∃ opened, disk.create path = .ok opened
  source_writable : Utf8.Writable source
  rows_plain : ∀ row ∈ lexer source, row.Plain

namespace BundledRun

variable {config : Config} {host : Host} {catalog : Tool.Catalog} {identifier name : Text}
  {lexer : Lexer} {source path : Text} {disk : Disk}
  (run : BundledRun config host catalog identifier name lexer source path disk)
include run

theorem path_ne_nil : path ≠ [] := by
  obtain ⟨opened, hcreate⟩ := run.creates
  exact Disk.ne_nil_of_create hcreate

theorem exists_enter :
    ∃ scratch, Scratch.enter config identifier source disk = (scratch, .ok path) := by
  obtain ⟨opened, hcreate⟩ := run.creates
  exact ⟨_, Scratch.enter_eq_ok_iff.mpr
    ⟨run.path_eq, run.source_writable, opened, hcreate, rfl⟩⟩

/-- The tool hands the source to the lexer, whatever the lexer is. -/
theorem invoke_eq {other : Tool.Catalog} {probe : Lexer} (hprobe : other.lexer? name = some probe)
    {scratch : Disk} (hread : scratch.read path = .ok (Utf8.encode source)) :
    Tool.invoke other scratch.read (lexArguments (.text name) path) = Tool.print probe source :=
  Tool.invoke_lexArguments run.name_head run.path_head run.name_ne_nil run.path_ne_nil hprobe hread
    run.source_writable

/-- **The whole run**: on a disk where the scratch file holds the source, the tool is asked for its
rows, and its output is decoded into the tokens of the rows. -/
theorem tokenize_eq :
    ∃ scratch, scratch.read path = .ok (Utf8.encode source) ∧
      tokenize config (host.runner config) identifier (.text name) source disk =
        ⟨.ok (Row.tokens (lexer source)), Scratch.leave path scratch,
          [.logged (.scratchCreated path), .invoked (lexArguments (.text name) path) scratch,
            .logged (.running (host.bundledCommand ++ lexArguments (.text name) path)),
            .started (host.bundledCommand ++ lexArguments (.text name) path),
            .logged (.scratchRemoved path),
            .logged (.decoded (Row.tokens (lexer source)).length false)]⟩ := by
  obtain ⟨scratch, henter⟩ := run.exists_enter
  have hread := Scratch.read_of_enter henter
  have hstart := (run.starts_tool _ scratch).trans
    (Tool.start_lexArguments (run.invoke_eq run.knows_lexer hread) run.rows_plain)
  have hlaunch := Host.launch_runner (Host.command_bundled run.no_command run.has_lexers)
    (Row.writable_flatMap_line run.rows_plain) hstart
  refine ⟨scratch, hread, ?_⟩
  simp only [tokenize, Scratch.within_of_enter henter, hlaunch, Except.bind, decodeOutputValue,
    Except.mapError,
    Row.decodeOutput_flatMap_line fun row hrow => (run.rows_plain row hrow).oneLine]
  rfl

end BundledRun

/-- A machine that has nothing but the bundled tool. -/
def Host.bare (catalog : Tool.Catalog) : Host :=
  ⟨Text.of "python", true, fun _ => false, fun _ => false, Tool.start catalog⟩

/-- A lexer that makes two rows of one name for the first two characters, then an empty one, one for
the third character, and a last one that reaches beyond the source into the LF that is put behind
it. -/
def Rotation.overhanging : Rotation :=
  ⟨[⟨1, some (Kind.label .name), none⟩, ⟨1, some (Kind.label .name), none⟩,
      ⟨0, some (Kind.label .text), none⟩, ⟨1, some (Kind.label .whitespace), none⟩,
      ⟨3, some (Kind.label .name), none⟩],
    [0x0A]⟩

/-- The catalog that holds it. -/
def Tool.Catalog.overhanging : Tool.Catalog :=
  { lexer? := fun name => if name = Text.of "demo" then some Rotation.overhanging.lex else none
    aliases? := fun _ => none }

/-- A configuration with a directory and a beginning of names of its own, which counts characters.
-/
def Config.ofSub : Config := ⟨none, .text (Text.of "./sub/"), .text (Text.of "lex."), .codePoint⟩

/-- A disk with one more folder, and a file in it. -/
def Disk.withSub : Disk :=
  { Disk.bare with
    folders := [Utf8.encode (Text.of "sub")] :: Disk.bare.folders
    files := [([Utf8.encode (Text.of "sub"), Utf8.encode (Text.of "lex.0")], [0x61])] }

/-- A source whose second character lies beyond the first 65536. -/
def overhungSource : Text := [0x61, 0x1D11E, 0x20, 0x63, 0x64]

theorem bundledRun_overhanging :
    BundledRun .ofSub (.bare .overhanging) .overhanging (Text.of "1") (Text.of "demo")
      Rotation.overhanging.lex overhungSource (Text.of "sub/lex.1") .withSub where
  no_command := rfl
  has_lexers := rfl
  starts_tool _ _ := rfl
  knows_lexer := by simp [Tool.Catalog.overhanging]
  name_ne_nil := by decide
  name_head := by decide
  path_eq := rfl
  path_head := by decide
  creates := ⟨_, rfl⟩
  source_writable := by decide
  rows_plain := by decide +kernel

/-! ### What comes of it -/

section Results

variable {config : Config} {host : Host} {catalog : Tool.Catalog} {identifier name : Text}
  {lexer : Lexer} {source path : Text} {disk : Disk}

/-- **Writing and reading agree from end to end.** In a run of the bundled tool the lexer is handed
exactly the source, whichever lexer stands under the name; the tokens are those that its rows stand
for; no warning is logged; and the tokens hold the text of the rows. -/
theorem tokenize_bundled
    (run : BundledRun config host catalog identifier name lexer source path disk) :
    let outcome := tokenize config (host.runner config) identifier (.text name) source disk
    outcome.result = .ok (Row.tokens (lexer source)) ∧
      (∃ scratch,
        outcome.journal.invocations = [(lexArguments (.text name) path, scratch)] ∧
          ∀ (other : Tool.Catalog) (probe : Lexer), other.lexer? name = some probe →
            Tool.invoke other scratch.read (lexArguments (.text name) path) =
              Tool.print probe source) ∧
      (∀ record ∈ outcome.journal.log, record.level ≠ .warning) ∧
      (Row.tokens (lexer source)).flatMap (·.payload) = (lexer source).flatMap (·.value) := by
  obtain ⟨scratch, hread, htokenize⟩ := run.tokenize_eq
  simp only [htokenize]
  refine ⟨trivial, ⟨scratch, rfl, fun other probe hprobe => run.invoke_eq hprobe hread⟩, ?_,
    Row.flatMap_payload_tokens _⟩
  simp [Journal.log, Log.Record.level]

theorem tokenize_bundled_overhanging :
    (Rotation.overhanging.lex overhungSource).map (·.value) =
        [[0x61], [0x1D11E], [], [0x20], [0x63, 0x64, 0x0A]] ∧
      (tokenize .ofSub ((Host.bare .overhanging).runner .ofSub) (Text.of "1")
        (.text (Text.of "demo")) overhungSource .withSub).result =
          .ok [⟨.name, [0x61, 0x1D11E]⟩, ⟨.whitespace, [0x20]⟩, ⟨.name, [0x63, 0x64, 0x0A]⟩] := by
  have htokens : Row.tokens (Rotation.overhanging.lex overhungSource) =
      [⟨.name, [0x61, 0x1D11E]⟩, ⟨.whitespace, [0x20]⟩, ⟨.name, [0x63, 0x64, 0x0A]⟩] := by
    decide +kernel
  exact ⟨by decide +kernel, htokens ▸ (tokenize_bundled bundledRun_overhanging).1⟩

/-- **Highlighting covers the source once.** If the fragments of the rows are the source, and maybe
more behind it, a callback that always wants to go on gets calls that tile the source. -/
theorem parse_bundled
    (run : BundledRun config host catalog identifier name lexer source path disk) {suffix : Text}
    (hspell : (lexer source).flatMap (·.value) = source ++ suffix) :
    let highlighted := parse config (host.runner config) identifier (.text name) source .always ()
      disk
    highlighted.outcome.result = .ok () ∧
      Located.Tiling config.offsetUnits source (Row.tokens (lexer source)) highlighted.calls := by
  obtain ⟨scratch, -, htokenize⟩ := run.tokenize_eq
  have hresult := congrArg Outcome.result htokenize
  obtain ⟨hcalls, hok⟩ := parse_always_of_ok hresult
  refine ⟨hok, ?_⟩
  rw [hcalls]
  exact Located.tiling_located config.offsetUnits
    (fun token htoken => Row.payload_ne_nil_of_mem_tokens htoken)
    ((Row.flatMap_payload_tokens _).trans hspell)

theorem parse_bundled_overhanging :
    let highlighted := parse .ofSub ((Host.bare .overhanging).runner .ofSub) (Text.of "1")
      (.text (Text.of "demo")) overhungSource .always () .withSub
    (Rotation.overhanging.lex overhungSource).flatMap (·.value) = overhungSource ++ [0x0A] ∧
      highlighted.calls.map (·.range) = [⟨0, 2⟩, ⟨2, 1⟩, .unresolved] ∧
      Located.Tiling .codePoint overhungSource
        (Row.tokens (Rotation.overhanging.lex overhungSource)) highlighted.calls := by
  intro highlighted
  have hspell : (Rotation.overhanging.lex overhungSource).flatMap (·.value) =
      overhungSource ++ [0x0A] := by decide +kernel
  exact ⟨hspell, by decide +kernel, (parse_bundled bundledRun_overhanging hspell).2⟩

end Results

end LexBridge
