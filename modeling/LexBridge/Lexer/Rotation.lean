import LexBridge.Wire.Row

/-!
# Lexers that cut in rotation

A lexer that knows nothing of languages: it cuts a text into pieces of given sizes, starting over
with the first size when all are used up, until the text is at its end. A piece may be dropped, or
stand for another text than its own.

## Main definitions

* `Piece`: a size, and what is made of the text of that size.
* `Rotation`, `Rotation.lex`: the lexer.
-/

namespace LexBridge

/-- A piece of a rotation: how many characters it takes, the token type it gives them, if any, and
a text that stands for them, if not they themselves. -/
structure Piece where
  size : Nat
  name : Option Text
  replacement : Option Text

namespace Piece

/-- The row that a piece makes of what it takes. -/
def row? (piece : Piece) (taken : Text) : Option Row :=
  piece.name.map fun name => ⟨name, piece.replacement.getD taken⟩

/-- Goes through pieces once, as long as some text is left: the rows, and the text left over. -/
def pass : List Piece → Text → List Row × Text
  | [], rest => ([], rest)
  | piece :: pieces, rest =>
    if rest = [] then ([], [])
    else
      let (rows, left) := pass pieces (rest.drop piece.size)
      ((piece.row? (rest.take piece.size)).toList ++ rows, left)

end Piece

/-- The pieces that are gone through over and over, and a text that is put behind the source
first. -/
structure Rotation where
  pieces : List Piece
  appended : Text

namespace Rotation

/-- Goes through the pieces at most a given number of times. -/
def passes (pieces : List Piece) : Nat → Text → List Row
  | 0, _ => []
  | count + 1, rest =>
    if rest = [] then []
    else
      let (rows, left) := Piece.pass pieces rest
      rows ++ passes pieces count left

/-- The lexer of a rotation. Unless all pieces are empty every pass takes a character, so there are
never more passes than characters. -/
def lex (rotation : Rotation) : Lexer := fun source =>
  let text := source ++ rotation.appended
  passes rotation.pieces text.length text

end Rotation

end LexBridge
