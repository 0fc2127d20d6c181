import LexBridge.Text.Basic

/-!
# Cutting texts

A text is cut into lines at every line boundary of Unicode and at the separators of ASCII. CR LF is
one boundary, and a boundary at the end of a text opens no further line. Blanks are cut off both
ends of a text; zero-width characters and U+180E are not blank. A text is cut in two where another
one occurs first; the empty text occurs at once.

## Main definitions

* `CodePoint.isLineBoundary`: the ten characters that end a line.
* `Text.lines`: the lines of a text, without their boundaries.
* `CodePoint.isBlank`: white space.
* `Text.trim`: a text without the blanks at its ends.
* `Text.cut?`: what stands before and after the first occurrence of another text.
-/

namespace LexBridge

/-- The characters that end a line: LF, VT, FF, CR, the file, group and record separators, NEL and
the line and paragraph separators. -/
def CodePoint.isLineBoundary (c : CodePoint) : Bool :=
  [0x0A, 0x0B, 0x0C, 0x0D, 0x1C, 0x1D, 0x1E, 0x85, 0x2028, 0x2029].contains c.val

/-- White space: the characters of bidirectional class B, S or WS and the space separators. -/
def CodePoint.isBlank (c : CodePoint) : Bool :=
  let n := c.val
  (0x09 ≤ n && n ≤ 0x0D) || (0x1C ≤ n && n ≤ 0x20) || (0x2000 ≤ n && n ≤ 0x200A) ||
    [0x85, 0xA0, 0x1680, 0x2028, 0x2029, 0x202F, 0x205F, 0x3000].contains n

namespace Text

/-- The lines of a text. A CR just before a LF is passed over, so that the LF ends the line for
both of them. -/
def lines : Text → List Text
  | [] => []
  | c :: rest =>
    if c = 0x0D ∧ rest.head? = some 0x0A then lines rest
    else if c.isLineBoundary then [] :: lines rest
    else
      match lines rest with
      | [] => [[c]]
      | line :: others => (c :: line) :: others

/-- A text without leading and trailing blanks; blanks inside it stay. -/
def trim (text : Text) : Text :=
  ((text.dropWhile (·.isBlank)).reverse.dropWhile (·.isBlank)).reverse

/-- The parts of a text before and after the first occurrence of `wanted`, if there is one. -/
def cut? (wanted : Text) : Text → Option (Text × Text)
  | [] => if wanted = [] then some ([], []) else none
  | c :: rest =>
    match dropPrefix? wanted (c :: rest) with
    | some after => some ([], after)
    | none => (cut? wanted rest).map fun (before, after) => (c :: before, after)

end Text

end LexBridge
