import LexBridge.Proofs.Tool.Invocation

/-!
# What an invocation of the tool leaves behind

Whoever starts the tool trusts its output by its status alone. That is safe because the output is
all or nothing: the rows are written at the very end, when nothing is left that could go wrong but a
row that cannot be written, and whatever goes wrong before is said on the other channel.

Rows are asked for unless a file name is given to guess a lexer for. Then there are rows just if the
format, a lexer that is known and a file in UTF-8 are given, and a failure says why there are none.

## Main definitions

* `Tool.Catalog.Writable`: no lexer makes what cannot be written of what can be.
* `Tool.Exit.Failed`: an invocation that comes to nothing.

## Main results

* `Tool.failed_invoke`: when there are no rows.
* `Tool.well_or_failed`: every invocation ends well or comes to nothing.
* `Tool.exists_status`: what comes to nothing ends with a status all the same.
* `Tool.invoke_all_or_nothing`: output and status of every invocation.
-/

namespace LexBridge.Tool

/-- A text that can be written is taken apart into fragments that can be written, whichever lexer
does it. -/
def Catalog.Writable (catalog : Catalog) : Prop :=
  ∀ name lexer, catalog.lexer? name = some lexer →
    ∀ source, Utf8.Writable source → ∀ row ∈ lexer source, Utf8.Writable row.value

/-! ### Failures -/

/-- An invocation that comes to nothing: it has written nothing and does not end with status zero,
and if it ends with another status, it has said something. -/
structure Exit.Failed (exit : Exit) : Prop where
  stdout_eq_nil : exit.stdout = []
  not_well : exit.ending ≠ .status 0
  stderr_ne_nil : ∀ code, exit.ending = .status code → exit.stderr ≠ []

namespace Exit

theorem Failed.faulty (fault : Value.Fault) : (faulty fault).Failed :=
  ⟨rfl, nofun, nofun⟩

theorem Failed.failed (message : Text) : (failed message).Failed :=
  ⟨rfl, nofun, fun _ _ => List.append_ne_nil_of_right_ne_nil _ (List.cons_ne_nil _ _)⟩

end Exit

/-- Only the help option ends an invocation well before there is work to do. -/
theorem Stop.failed_exit {stop : Stop} (h : stop ≠ .help) : stop.exit.Failed := by
  cases stop with
  | help => exact absurd rfl h
  | wrong error =>
    exact ⟨rfl, nofun, fun _ _ => List.append_ne_nil_of_right_ne_nil _ (List.cons_ne_nil _ _)⟩
  | badValue fault => exact .faulty fault

/-- A command line of texts that asks for no work ends with a status. -/
theorem Stop.ending_exit {stop : Stop} (h : ∀ fault, stop ≠ .badValue fault) :
    stop.exit.ending = .status (if stop = .help then 0 else 2) := by
  cases stop with
  | help => rfl
  | wrong error => rfl
  | badValue fault => exact absurd rfl (h fault)

section Rows

variable {catalog : Catalog} {read : Text → Except Disk.Refusal (List UInt8)}

/-- Without a file in UTF-8 nothing is written. -/
theorem failed_lexFile (lexer : Lexer) (path : Text) {content : Except Disk.Refusal (List UInt8)}
    (h : ∀ source, Utf8.Writable source → content ≠ .ok (Utf8.encode source)) :
    (lexFile lexer path content).Failed := by
  rw [lexFile.eq_def]
  split
  case h_1 => exact ⟨rfl, nofun, nofun⟩
  case h_2 => exact ⟨rfl, nofun, nofun⟩
  case h_3 => exact .failed _
  case h_4 bytes =>
    split
    case h_1 => exact .failed _
    case h_2 text hdecode =>
      obtain ⟨hwritable, rfl⟩ := Utf8.decode_eq_ok_iff.mp hdecode
      exact absurd rfl (h text hwritable)

theorem lookUp_eq_ok_some_iff {α : Type} {table : Text → Option α} {key : Value} {found : α} :
    lookUp table key = .ok (some found) ↔ ∃ name, key = .text name ∧ table name = some found := by
  cases key <;> simp [lookUp, Value.isAtom]

/-- Of what texts give, only texts count as true. -/
theorem exists_text_of_isTruthy {value : Value} (h : value = .null ∨ OfText value)
    (htrue : value.isTruthy = true) : ∃ text, value = .text text := by
  rcases h with rfl | h
  · cases htrue
  · cases h with
    | text text => exact ⟨text, rfl⟩
    | dropped => cases htrue

theorem path_eq_ok_iff {value : Value} {path : Text} :
    value.path = .ok path ↔ value = .text path := by
  cases value <;> simp [Value.path]

/-- Rows are not printed unless a lexer is found and its file is one in UTF-8. -/
theorem failed_printRows {name infile : Value}
    (h : ∀ key path lexer source, name = .text key → catalog.lexer? key = some lexer →
      infile = .text path → Utf8.Writable source → read path ≠ .ok (Utf8.encode source)) :
    (catalog.printRows read name infile).Failed := by
  rw [Catalog.printRows]
  split
  case h_1 fault _ => exact .faulty fault
  case h_2 fault _ _ => exact .faulty fault
  case h_3 => exact .failed _
  case h_4 lexer path hlexer hpath =>
    obtain ⟨key, hkey, hfound⟩ := lookUp_eq_ok_some_iff.mp hlexer
    exact failed_lexFile lexer path fun source =>
      h key path lexer source hkey hfound (path_eq_ok_iff.mp hpath)

/-- Arguments that are not accepted ask for no work. -/
theorem invoke_of_stop {argv : List Value} {stop : Stop}
    (hparse : Arguments.parse argv = .error stop) : invoke catalog read argv = stop.exit := by
  simp only [invoke, Request.parse, hparse]

variable {argv : List Value} {arguments : Arguments}
  (hparse : Arguments.parse argv = .ok arguments)
include hparse

/-- A file name to guess for goes before all else. -/
theorem invoke_of_guess_ne_null (hguess : arguments.guess ≠ .null) :
    invoke catalog read argv = catalog.printGuess arguments.guess := by
  simp only [invoke, Request.parse, hparse, Request.ofArguments, if_pos hguess, Request.serve]

variable (hguess : arguments.guess = .null)
include hguess

/-- **There is nothing if something that rows need is missing.** -/
theorem failed_invoke (hnot : ¬ ∃ lexer source, arguments.Lexes catalog read lexer source) :
    (invoke catalog read argv).Failed := by
  rw [invoke_of_guess_eq_null hparse hguess]
  split_ifs with hgiven
  · obtain ⟨hformat, hname, hpath⟩ := hgiven
    refine failed_printRows fun key path lexer source hkey hlexer hinfile hsource hread => hnot ?_
    rw [hkey] at hname
    rw [hinfile] at hpath
    exact ⟨lexer, source, hformat, ⟨key, hkey, by simpa [Value.isTruthy] using hname, hlexer⟩,
      ⟨path, hinfile, by simpa [Value.isTruthy] using hpath, hread⟩, hsource⟩
  · exact Stop.failed_exit fun h => by cases h

end Rows

section All

variable {catalog : Catalog} (hcatalog : catalog.Writable)
  (read : Text → Except Disk.Refusal (List UInt8))
include hcatalog

theorem print_of_lexes {arguments : Arguments} {lexer : Lexer} {source : Text}
    (hlexes : arguments.Lexes catalog read lexer source) :
    print lexer source =
      ⟨(lexer source).flatMap fun row => row.line ++ [0x0A], [], .status 0⟩ := by
  obtain ⟨name, -, -, hlexer⟩ := hlexes.exists_name
  exact print_of_writable (hcatalog name lexer hlexer source hlexes.writable)

/-- **An invocation ends well or comes to nothing.** -/
theorem well_or_failed (argv : List Value) :
    (invoke catalog read argv).ending = .status 0 ∨ (invoke catalog read argv).Failed := by
  cases hparse : Arguments.parse argv with
  | error stop =>
    rw [invoke_of_stop hparse]
    by_cases hhelp : stop = .help
    · subst hhelp
      exact Or.inl rfl
    · exact Or.inr (Stop.failed_exit hhelp)
  | ok arguments =>
    by_cases hguess : arguments.guess = .null
    · by_cases hlexes : ∃ lexer source, arguments.Lexes catalog read lexer source
      · obtain ⟨lexer, source, hlexes⟩ := hlexes
        rw [invoke_of_lexes hparse hguess hlexes, print_of_lexes hcatalog read hlexes]
        exact Or.inl rfl
      · exact Or.inr (failed_invoke hparse hguess hlexes)
    · rw [invoke_of_guess_ne_null hparse hguess, Catalog.printGuess]
      split
      · exact Or.inr (.faulty _)
      · exact Or.inl rfl

/-- Lexing a file ends with a status, unless its path holds a NUL or cannot be encoded. -/
theorem exists_status_of_lexFile {name : Text} {lexer : Lexer}
    (hlexer : catalog.lexer? name = some lexer) (path : Text)
    {content : Except Disk.Refusal (List UInt8)} (hnul : content ≠ .error .embeddedNul)
    (hencoded : ∀ run, content ≠ .error (.unencodable run)) :
    ∃ code, (lexFile lexer path content).ending = .status code := by
  rw [lexFile.eq_def]
  split
  case h_1 => exact absurd rfl hnul
  case h_2 run => exact absurd rfl (hencoded run)
  case h_3 => exact ⟨1, rfl⟩
  case h_4 bytes =>
    split
    case h_1 => exact ⟨1, rfl⟩
    case h_2 text hdecode =>
      have hwritable := (Utf8.decode_eq_ok_iff.mp hdecode).1
      rw [print_of_writable (hcatalog name lexer hlexer text hwritable)]
      exact ⟨0, rfl⟩

/-- **Texts for arguments lead to a status**, unless the path of the file holds a NUL or cannot be
encoded. -/
theorem exists_status {arguments : Arguments} {argv : List Value} (htexts : arguments.OfTexts)
    (hparse : Arguments.parse argv = .ok arguments) (hguess : arguments.guess = .null)
    (hpaths : ∀ path, arguments.infile = .text path →
      read path ≠ .error .embeddedNul ∧ ∀ run, read path ≠ .error (.unencodable run)) :
    ∃ code, (invoke catalog read argv).ending = .status code := by
  rw [invoke_of_guess_eq_null hparse hguess]
  split_ifs with hgiven
  · obtain ⟨-, hname, hpath⟩ := hgiven
    obtain ⟨name, hname⟩ := exists_text_of_isTruthy htexts.lexer hname
    obtain ⟨path, hpath⟩ := exists_text_of_isTruthy htexts.infile hpath
    simp only [hname, hpath, Catalog.printRows, lookUp, Value.path]
    cases hlexer : catalog.lexer? name with
    | none => exact ⟨1, rfl⟩
    | some lexer =>
      obtain ⟨hnul, hencoded⟩ := hpaths path hpath
      exact exists_status_of_lexFile hcatalog hlexer path hnul hencoded
  · exact ⟨2, rfl⟩

/-- **The output of the tool is all or nothing.** An invocation whose arguments are not accepted
ends with status two, or zero if help is asked for. Whenever it ends with a status that is not zero,
it has written nothing and said something. If its arguments are accepted, a file name to guess for
goes before all else. Otherwise the status is zero just if the format, a lexer that is known and a
file in UTF-8 are given, and then the rows of the text of the file are all that is written; only a
path that holds a NUL or cannot be encoded keeps it from ending with a status. -/
theorem invoke_all_or_nothing (argv : List Text) :
    let exit := invoke catalog read (argv.map .text)
    (∀ code, exit.ending = .status code → code ≠ 0 → exit.stdout = [] ∧ exit.stderr ≠ []) ∧
      (∀ stop, Arguments.parse (argv.map .text) = .error stop →
        exit.ending = .status (if stop = .help then 0 else 2)) ∧
      ∀ arguments, Arguments.parse (argv.map .text) = .ok arguments →
        (arguments.guess ≠ .null ↔
          ∃ text ∈ argv.takeWhile (· ≠ divider), Text.of "-N" <+: text) ∧
        (arguments.guess ≠ .null → exit = catalog.printGuess arguments.guess) ∧
        (∀ filename, arguments.guess = .text filename →
          exit = ⟨catalog.guess filename ++ [0x0A], [], .status 0⟩) ∧
        (arguments.guess = .null →
          (exit.ending = .status 0 ↔
            ∃ lexer source, arguments.Lexes catalog read lexer source) ∧
          (∀ lexer source, arguments.Lexes catalog read lexer source →
            exit = ⟨(lexer source).flatMap fun row => row.line ++ [0x0A], [], .status 0⟩) ∧
          ((∀ path, arguments.infile = .text path →
              read path ≠ .error .embeddedNul ∧ ∀ run, read path ≠ .error (.unencodable run)) →
            ∃ code, exit.ending = .status code)) := by
  have htexts := Arguments.ofTexts_parse argv
  refine ⟨fun code hcode hne => ?_, fun stop hparse => ?_,
    fun arguments hparse => ⟨?_, ?_, ?_, fun hguess => ?_⟩⟩
  · rcases well_or_failed hcatalog read (argv.map .text) with hwell | hfailed
    · rw [hwell] at hcode
      exact absurd (Ending.status.inj hcode).symm hne
    · exact ⟨hfailed.stdout_eq_nil, hfailed.stderr_ne_nil code hcode⟩
  · rw [hparse] at htexts
    rw [invoke_of_stop hparse, Stop.ending_exit htexts]
  · simpa only [namesFlag_guess_iff] using Arguments.guess_ne_null_iff hparse
  · exact invoke_of_guess_ne_null hparse
  · intro filename hguess
    rw [invoke_of_guess_ne_null hparse (by rw [hguess]; nofun), hguess]
    rfl
  · have hrows : ∀ lexer source, arguments.Lexes catalog read lexer source →
        invoke catalog read (argv.map .text) =
          ⟨(lexer source).flatMap fun row => row.line ++ [0x0A], [], .status 0⟩ :=
      fun lexer source hlexes =>
        (invoke_of_lexes hparse hguess hlexes).trans (print_of_lexes hcatalog read hlexes)
    rw [hparse] at htexts
    refine ⟨⟨fun hwell => ?_, fun ⟨lexer, source, hlexes⟩ => ?_⟩, hrows,
      exists_status hcatalog read htexts hparse hguess⟩
    · by_contra hnot
      exact (failed_invoke hparse hguess hnot).not_well hwell
    · rw [hrows lexer source hlexes]

end All

theorem Catalog.writable_standard : Catalog.standard.Writable := by
  intro name lexer hlexer source hsource row hrow
  simp only [standard] at hlexer
  split at hlexer
  · obtain rfl := Option.some.inj hlexer
    rw [Lexer.plain] at hrow
    split at hrow
    · cases hrow
    · obtain rfl := List.mem_singleton.mp hrow
      exact hsource
  · cases hlexer

/-- A file that holds `x`, and no arguments at all. -/
theorem standard_all_or_nothing :
    Catalog.standard.Writable ∧
      invoke .standard (fun _ => .ok [0x78])
          ([Text.of "-f", rawFormat, Text.of "-l", fallbackLexer, Text.of "a"].map .text) =
        ⟨Text.of "Token.Text\t'78'\n", [], .status 0⟩ ∧
      let exit := invoke .standard (fun _ => .ok [0x78]) (([] : List Text).map .text)
      exit.ending = .status 2 ∧ exit.stdout = [] ∧ exit.stderr ≠ [] := by
  refine ⟨Catalog.writable_standard, ?_, rfl, ?_⟩
  · have hrows := ((invoke_all_or_nothing Catalog.writable_standard (fun _ => .ok [0x78])
      [Text.of "-f", rawFormat, Text.of "-l", fallbackLexer, Text.of "a"]).2.2
        ⟨.text rawFormat, .text fallbackLexer, .null, .text (Text.of "a")⟩ (by rfl)).2.2.2 rfl
    refine (hrows.2.1 Lexer.plain [0x78] ⟨rfl, ⟨fallbackLexer, rfl, by decide, ?_⟩,
      ⟨Text.of "a", rfl, by decide, by decide⟩, by decide⟩).trans (by decide)
    simp [Catalog.standard]
  · exact (invoke_all_or_nothing Catalog.writable_standard (fun _ => .ok [0x78]) []).1 2 rfl
      (by decide)

end LexBridge.Tool
