import LexBridge.Highlight.Tokens
import LexBridge.Proofs.Token.RoundTrip
import LexBridge.Proofs.Tool.Arguments
import LexBridge.Tool.Invocation
import Mathlib.Tactic.SplitIfs

/-!
# What the tool does when it is asked for rows

Rows are printed if the format, a lexer that is known and a file in UTF-8 are given, and no file
name to guess a lexer for. The command line for the rows of a file gives all that, as long as
neither the name of the lexer nor the path looks like an option. The tool then hands the text of the
file to the lexer and writes a line for each row, and all that it writes can be read again.

## Main definitions

* `Tool.Arguments.Lexes`: what a command line has to give if rows are to be printed.

## Main results

* `Tool.invoke_of_guess_eq_null`, `Tool.invoke_of_lexes`: the whole invocation, whatever else its
  command line holds.
* `Tool.Arguments.parse_lexArguments`, `Tool.invoke_lexArguments`: the command line for the rows of
  a file, and the invocation with it.
* `Tool.start_lexArguments`: the invocation as a started command, if the rows are plain.
-/

namespace LexBridge.Tool

/-! ### Command lines -/

/-- What begins with no dash is no option. -/
theorem textItem_of_head?_ne {text : Text} (h : text.head? ≠ some dash) :
    textItem text = .plain (.text text) :=
  textItem_eq_plain_iff.mpr fun hoption => h hoption.1

theorem ne_divider_of_head?_ne {text : Text} (h : text.head? ≠ some dash) : text ≠ divider := by
  rintro rfl
  exact h rfl

variable {name path : Text} (hname : name.head? ≠ some dash) (hpath : path.head? ≠ some dash)
include hname hpath

theorem items_lexArguments :
    items (lexArguments (.text name) path) =
      .ok [.letter .format none, .plain (.text rawFormat), .letter .lexer none,
        .plain (.text name), .plain (.text path)] := by
  rw [lexArguments, items_text_cons (by decide) <| items_text_cons (by decide) <|
    items_text_cons (by decide) <| items_text_cons (ne_divider_of_head?_ne hname) <|
    items_text_cons (ne_divider_of_head?_ne hpath) rfl, textItem_of_head?_ne hname,
    textItem_of_head?_ne hpath]
  rfl

theorem Arguments.parse_lexArguments :
    Arguments.parse (lexArguments (.text name) path) =
      .ok ⟨.text rawFormat, .text name, .null, .text path⟩ := by
  rw [parse, items_lexArguments hname hpath]
  rfl

omit hname hpath

/-! ### Invocations -/

/-- A file of UTF-8 is handed to the lexer as the text that it holds. -/
theorem lexFile_encode (lexer : Lexer) (path : Text) {source : Text}
    (hsource : Utf8.Writable source) :
    lexFile lexer path (.ok (Utf8.encode source)) = print lexer source := by
  simp only [lexFile, Utf8.decode_encode hsource]

/-- What the values of a command line have to be if rows are to be printed: the format, a lexer that
is known, and a file that holds a text in UTF-8. -/
structure Arguments.Lexes (arguments : Arguments) (catalog : Catalog)
    (read : Text → Except Disk.Refusal (List UInt8)) (lexer : Lexer) (source : Text) : Prop where
  format_eq : arguments.format = .text (Text.of "raw")
  exists_name : ∃ name, arguments.lexer = .text name ∧ name ≠ [] ∧ catalog.lexer? name = some lexer
  exists_path : ∃ path, arguments.infile = .text path ∧ path ≠ [] ∧
    read path = .ok (Utf8.encode source)
  writable : Utf8.Writable source

section Accepted

variable {catalog : Catalog} {read : Text → Except Disk.Refusal (List UInt8)} {argv : List Value}
  {arguments : Arguments} (hparse : Arguments.parse argv = .ok arguments)
  (hguess : arguments.guess = .null)
include hparse hguess

/-- Without a file name to guess for, rows are what can be asked for. -/
theorem invoke_of_guess_eq_null :
    invoke catalog read argv =
      if arguments.format = .text rawFormat ∧ arguments.lexer.isTruthy ∧ arguments.infile.isTruthy
      then catalog.printRows read arguments.lexer arguments.infile
      else (Stop.wrong .incomplete).exit := by
  simp only [invoke, Request.parse, hparse, Request.ofArguments, hguess, ne_eq, not_true_eq_false,
    if_false]
  split_ifs <;> rfl

/-- **There are rows if all that they need is given.** -/
theorem invoke_of_lexes {lexer : Lexer} {source : Text}
    (hlexes : arguments.Lexes catalog read lexer source) :
    invoke catalog read argv = print lexer source := by
  obtain ⟨hformat, ⟨name, hname, hn, hlexer⟩, ⟨path, hpath, hp, hread⟩, hsource⟩ := hlexes
  rw [invoke_of_guess_eq_null hparse hguess, hname, hpath]
  rw [if_pos ⟨hformat, by simpa [Value.isTruthy], by simpa [Value.isTruthy]⟩]
  simp only [Catalog.printRows, lookUp, hlexer, Value.path, hread,
    lexFile_encode lexer path hsource]

end Accepted

/-- **The lexer gets the text of the file**, whichever lexer it is, and its rows are printed. -/
theorem invoke_lexArguments {catalog : Catalog} {lexer : Lexer} {source : Text}
    {read : Text → Except Disk.Refusal (List UInt8)} (hname : name.head? ≠ some dash)
    (hpath : path.head? ≠ some dash) (hn : name ≠ []) (hp : path ≠ [])
    (hlexer : catalog.lexer? name = some lexer) (hread : read path = .ok (Utf8.encode source))
    (hsource : Utf8.Writable source) :
    invoke catalog read (lexArguments (.text name) path) = print lexer source :=
  invoke_of_lexes (Arguments.parse_lexArguments hname hpath) rfl
    ⟨rfl, ⟨name, rfl, hn, hlexer⟩, ⟨path, rfl, hp, hread⟩, hsource⟩

/-- Rows whose fragments can be written are all printed. -/
theorem print_of_writable {lexer : Lexer} {source : Text}
    (h : ∀ row ∈ lexer source, Utf8.Writable row.value) :
    print lexer source =
      ⟨(lexer source).flatMap fun row => row.line ++ [0x0A], [], .status 0⟩ := by
  simp only [print, Row.writeAll_eq h]

/-- **The tool prints the rows of a file, as a command that ends well.** -/
theorem start_lexArguments {catalog : Catalog} {host : Host} {name path source : Text}
    {lexer : Lexer} {disk : Disk}
    (hinvoke : invoke catalog disk.read (lexArguments (.text name) path) = print lexer source)
    (hrows : ∀ row ∈ lexer source, row.Plain) :
    start catalog (host.bundledCommand ++ lexArguments (.text name) path) disk =
      .finished (Utf8.encode ((lexer source).flatMap fun row => row.line ++ [0x0A])) []
        (.int 0) := by
  have harguments : (host.bundledCommand ++ lexArguments (.text name) path).drop 3 =
      lexArguments (.text name) path := rfl
  have hprint := print_of_writable fun row hrow => (hrows row hrow).value_writable
  simp only [start, harguments, hinvoke, hprint, Utf8.encode_nil]
  rfl

end LexBridge.Tool
