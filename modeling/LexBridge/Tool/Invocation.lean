import LexBridge.Host
import LexBridge.Kind.Basic
import LexBridge.Tool.Arguments
import LexBridge.Wire.Row

/-!
# The lexer tool

One invocation of the bundled lexer tool, from its arguments to what it writes and its exit status.
It either prints the rows of a file, or the name of the lexer for a file name. Lexers of languages
are not part of the tool. By itself it knows the one for plain text, under the name that every
unknown file name leads to.

## Main definitions

* `Tool.Catalog`: the lexers and file name patterns that the tool knows.
* `Lexer.plain`, `Tool.Catalog.standard`: the lexer for plain text, and the catalog that holds it.
* `Tool.Request`, `Tool.Request.ofArguments`: what a command line asks for.
* `Tool.Exit`, `Tool.Ending`: what an invocation writes, and how it ends.
* `Tool.lookUp`: what a table has under a value.
* `Tool.invoke`: the whole invocation.
* `Tool.start`: an invocation as a started command.
-/

namespace LexBridge

/-- Makes one row of a whole text, and none of the empty text. -/
def Lexer.plain : Lexer := fun text => if text = [] then [] else [⟨Kind.label .text, text⟩]

namespace Tool

/-- What the tool knows: lexers by alias, and the aliases of the lexer for a file name. -/
structure Catalog where
  lexer? : Text → Option Lexer
  aliases? : Text → Option (List Text)

/-- The lexer that is named where none fits. -/
def fallbackLexer : Text := Text.of "text"

/-- The first alias of the lexer for a file name. -/
def Catalog.guess (catalog : Catalog) (filename : Text) : Text :=
  match catalog.aliases? filename with
  | some (name :: _) => name
  | _ => fallbackLexer

/-- The catalog with the lexer for plain text, to which all file names lead. -/
def Catalog.standard : Catalog :=
  { lexer? := fun name => if name = fallbackLexer then some Lexer.plain else none
    aliases? := fun _ => none }

/-! ### Requests -/

/-- What a command line asks for. -/
inductive Request
  | guess (filename : Value)
  | lex (lexer infile : Value)
  deriving DecidableEq

/-- The request of given values. A file name to guess for goes before all else, even if it is
empty; rows are asked for by the format, a lexer and a file, none of them empty. -/
def Request.ofArguments (arguments : Arguments) : Except Stop Request :=
  if arguments.guess ≠ .null then .ok (.guess arguments.guess)
  else if arguments.format = .text rawFormat ∧ arguments.lexer.isTruthy ∧
      arguments.infile.isTruthy then
    .ok (.lex arguments.lexer arguments.infile)
  else .error (.wrong .incomplete)

/-- The request of a command line. -/
def Request.parse (argv : List Value) : Except Stop Request :=
  match Arguments.parse argv with
  | .error stop => .error stop
  | .ok arguments => Request.ofArguments arguments

/-! ### Invocations -/

/-- How an invocation ends: with a status, or by an error that the tool does not expect. -/
inductive Ending
  | status (code : Nat)
  /-- What is to be written, or the path of the file, holds surrogates. -/
  | unwritable (run : Utf8.SurrogateRun)
  | embeddedNul
  | badValue (fault : Value.Fault)
  deriving DecidableEq

/-- What an invocation writes, and how it ends. -/
structure Exit where
  stdout : Text
  stderr : Text
  ending : Ending
  deriving DecidableEq

/-- The summary of the command line, a line. -/
def usage : Text :=
  Text.of "usage: pygkit-tool [-h] [-f \x7braw\x7d] [-l LEXER] [-N FILENAME] [infile]\n"

/-- What the help option prints. -/
def help : Text :=
  usage ++ Text.of "\nLex a file with pygments and print hex-encoded raw tokens\n" ++
    Text.of "\npositional arguments:\n" ++
    Text.of "  infile       File to lex\n" ++
    Text.of "\noptions:\n" ++
    Text.of "  -h, --help   show this help message and exit\n" ++
    Text.of "  -f \x7braw\x7d     Output format\n" ++
    Text.of "  -l LEXER     Lexer name\n" ++
    Text.of "  -N FILENAME  Print the lexer for FILENAME\n"

/-- An invocation that finds a value of the wrong type. -/
def Exit.faulty (fault : Value.Fault) : Exit := ⟨[], [], .badValue fault⟩

/-- An invocation that asks for no work. -/
def Stop.exit : Stop → Exit
  | help => ⟨Tool.help, [], .status 0⟩
  | wrong error =>
    ⟨[], usage ++ Text.of "pygkit-tool: error: " ++ error.message ++ [0x0A], .status 2⟩
  | badValue fault => Exit.faulty fault

/-- An invocation whose work fails, with a word about it. -/
def Exit.failed (message : Text) : Exit :=
  ⟨[], Text.of "Error: " ++ message ++ [0x0A], .status 1⟩

/-- Writes the rows of a lexer on a text. -/
def print (lexer : Lexer) (text : Text) : Exit :=
  match Row.writeAll (lexer text) with
  | (lines, none) => ⟨lines, [], .status 0⟩
  | (lines, some run) => ⟨lines, [], .unwritable run⟩

/-- Reads a file, given what the disk answers for its path, and writes its rows. -/
def lexFile (lexer : Lexer) (infile : Text) (content : Except Disk.Refusal (List UInt8)) : Exit :=
  match content with
  | .error .embeddedNul => ⟨[], [], .embeddedNul⟩
  | .error (.unencodable run) => ⟨[], [], .unwritable run⟩
  | .error refusal => .failed (refusal.message infile)
  | .ok bytes =>
    match Utf8.decode bytes with
    | .error fault => .failed fault.message
    | .ok text => print lexer text

/-- What a table has under a key of any type. It has texts for keys, and a value with parts cannot
even be looked up. -/
def lookUp {α : Type} (table : Text → Option α) : Value → Except Value.Fault (Option α)
  | .text key => .ok (table key)
  | key => if key.isAtom then .ok none else .error (.unhashable key.typeName)

/-- Prints the lexer for a file name. -/
def Catalog.printGuess (catalog : Catalog) (filename : Value) : Exit :=
  match lookUp (fun name => some (catalog.guess name)) filename with
  | .error fault => .faulty fault
  | .ok name => ⟨name.getD fallbackLexer ++ [0x0A], [], .status 0⟩

/-- Prints the rows of a file. A lexer is looked for before its file is. -/
def Catalog.printRows (catalog : Catalog) (read : Text → Except Disk.Refusal (List UInt8))
    (name infile : Value) : Exit :=
  match lookUp catalog.lexer? name, infile.path with
  | .error fault, _ | .ok (some _), .error fault => .faulty fault
  | .ok none, _ => .failed (Text.of "no lexer for alias " ++ name.render ++ Text.of " found")
  | .ok (some lexer), .ok path => lexFile lexer path (read path)

/-- Does what is asked for. -/
def Request.serve (catalog : Catalog) (read : Text → Except Disk.Refusal (List UInt8)) :
    Request → Exit
  | guess filename => catalog.printGuess filename
  | lex lexer infile => catalog.printRows read lexer infile

/-- One invocation of the tool. -/
def invoke (catalog : Catalog) (read : Text → Except Disk.Refusal (List UInt8))
    (argv : List Value) : Exit :=
  match Request.parse argv with
  | .error stop => stop.exit
  | .ok request => request.serve catalog read

/-- An invocation as a command that is started: behind its first three elements, which say that the
bundled tool is meant, stand the arguments. -/
def start (catalog : Catalog) (command : List Value) (disk : Disk) : Launch :=
  let exit := invoke catalog disk.read (command.drop 3)
  match exit.ending with
  | .status code => .finished (Utf8.encode exit.stdout) (Utf8.encode exit.stderr) (.int code)
  | .unwritable run => .broken (.foreign (Text.of "UnicodeEncodeError") run.message)
  | .embeddedNul =>
    .broken (.foreign (Text.of "ValueError") (Disk.Refusal.embeddedNul.message []))
  | .badValue fault => .broken (.badValue fault)

end Tool

end LexBridge
