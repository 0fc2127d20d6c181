import LexBridge.Text.Printable

/-!
# Quoted text

How a text is shown inside a message: between quotes, with everything escaped that could not be
read off the line.

## Main definitions

* `Text.quote`: which quote character a text gets.
* `Text.escape`: how one character is written between quotes.
* `Text.quoted`: a text between quotes.
-/

namespace LexBridge.Text

/-- The quote around a text: an apostrophe, unless the text holds an apostrophe and no double
quote, so that escaping is avoided where it can be. -/
def quote (text : Text) : CodePoint :=
  if 0x27 ∈ text ∧ 0x22 ∉ text then 0x22 else 0x27

/-- A character between the given quotes. The quote and the backslash get a backslash, tab, LF and
CR their letters, other characters that cannot be shown the shortest of the three hexadecimal
forms that holds them. -/
def escape (quote c : CodePoint) : Text :=
  if c = quote ∨ c = 0x5C then [0x5C, c]
  else if c = 0x09 then of "\\t"
  else if c = 0x0A then of "\\n"
  else if c = 0x0D then of "\\r"
  else if c.isPrintable then [c]
  else if c.val < 0x100 then of "\\x" ++ ofNatHex 2 c.val
  else if c.val < 0x10000 then of "\\u" ++ ofNatHex 4 c.val
  else of "\\U" ++ ofNatHex 8 c.val

/-- A text between quotes. -/
def quoted (text : Text) : Text :=
  [text.quote] ++ text.flatMap (escape text.quote) ++ [text.quote]

end LexBridge.Text
