import LexBridge.Text.Utf8
import LexBridge.Wire.Payload

/-!
# Rows of tool output

A lexer cuts a text into rows, each a type name and a fragment. The tool writes one line a row: the
name, a tab, and the UTF-8 bytes of the fragment as a hexadecimal payload. So a line never holds a
tab or a line boundary that came from the text.

## Main definitions

* `Row`, `Lexer`: a classified fragment, and a function that cuts texts into them.
* `Row.write`, `Row.writeAll`: the line of a row and the lines of many.
* `Row.fields?`: the two fields of a line.
-/

namespace LexBridge

/-- A fragment of a text with the name of its token type. -/
structure Row where
  name : Text
  value : Text
  deriving DecidableEq

/-- A lexer turns a text into rows. Nothing says that their fragments are those of the text. -/
abbrev Lexer := Text → List Row

namespace Row

/-- The line of a row, closed by a LF. There is none if the fragment holds a surrogate. -/
def write (row : Row) : Except Utf8.SurrogateRun Text :=
  (Utf8.encode? row.value).map fun bytes =>
    row.name ++ [0x09] ++ Payload.ofBytes bytes ++ [0x0A]

/-- The lines of the rows before the first one that cannot be written, and what is wrong with that
one. -/
def writeAll : List Row → Text × Option Utf8.SurrogateRun
  | [] => ([], none)
  | row :: rows =>
    match row.write with
    | .error run => ([], some run)
    | .ok line => let (lines, fault) := writeAll rows; (line ++ lines, fault)

/-- The two fields of a line that holds exactly one tab. -/
def fields? (line : Text) : Option (Text × Text) :=
  match line.splitOn 0x09 with
  | [name, payload] => some (name, payload)
  | _ => none

end Row

end LexBridge
