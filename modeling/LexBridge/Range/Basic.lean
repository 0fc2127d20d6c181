import LexBridge.Text.Basic

/-!
# Ranges of source text

Where a token stands in its source. Editors count either in UTF-16 units or in code points; a range
itself does not know in which. In UTF-16 a code point of the first 65536 is one unit, also if it is
a surrogate that stands alone, and any other one is a pair.

## Main definitions

* `Utf16.encodeOne`, `Utf16.encode`: the UTF-16 units of a code point and of a text.
* `OffsetUnits`, `OffsetUnits.size`: the two ways to count, and the size of a text in them.
* `Range`, `Range.unresolved`: a start and a length, and the range of what was not found.
-/

namespace LexBridge

namespace Utf16

/-- The units of a code point. A pair shares its number, less 65536, between a high and a low
surrogate, ten bits each. -/
def encodeOne (c : CodePoint) : List UInt16 :=
  if c.isAstral then
    [.ofNat (0xD800 + (c.val - 0x10000) / 0x400), .ofNat (0xDC00 + (c.val - 0x10000) % 0x400)]
  else [.ofNat c.val]

/-- The units of a text. -/
def encode (text : Text) : List UInt16 := text.flatMap encodeOne

end Utf16

/-- What offsets count. -/
inductive OffsetUnits
  | utf16
  | codePoint
  deriving DecidableEq

namespace OffsetUnits

/-- The names of the units, in the order in which they are offered. -/
def names : List Text := [Text.of "utf-16", Text.of "codepoint"]

/-- The name of a unit. -/
def name : OffsetUnits → Text
  | utf16 => Text.of "utf-16"
  | codePoint => Text.of "codepoint"

/-- The unit with a name; any name but that of UTF-16 counts code points. -/
def ofName (text : Text) : OffsetUnits := if text = name .utf16 then .utf16 else .codePoint

/-- How many units a code point takes. -/
def width : OffsetUnits → CodePoint → Nat
  | utf16, c => (Utf16.encodeOne c).length
  | codePoint, _ => 1

/-- How many units a text takes. -/
def size (units : OffsetUnits) : Text → Nat
  | [] => 0
  | c :: text => units.width c + units.size text

end OffsetUnits

/-- A span of source text. -/
structure Range where
  start : Int
  length : Int
  deriving DecidableEq

namespace Range

/-- The start of a range that stands nowhere. -/
def nowhere : Int := -1

/-- The range of a token that was not found. -/
def unresolved : Range := ⟨nowhere, 0⟩

/-- The offset just after a range. -/
def stop (range : Range) : Int := range.start + range.length

/-- Whether a range stands somewhere. -/
def isResolved (range : Range) : Bool := range.start ≠ nowhere

/-- A range in a message. -/
def describe (range : Range) : Text :=
  Text.of "Range(start=" ++ Text.ofInt range.start ++ Text.of ", length=" ++
    Text.ofInt range.length ++ Text.of ")"

end Range

end LexBridge
