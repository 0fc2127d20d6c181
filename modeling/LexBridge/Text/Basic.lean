/-!
# Text as code points

Source text, tool output and settings are all handled as lists of Unicode code points. A list and
not a `String`, because source text may hold lone surrogates, which no `String` can hold; positions
and lengths are then list positions and list lengths.

## Main definitions

* `CodePoint`, `Text`: a code point, surrogates included, and a list of them.
* `Text.of`, `Text.toString`: the code points of a string, and the string of a text.
* `Text.ofNat`, `Text.ofInt`, `Text.ofNatHex`: numbers in decimal and in padded hexadecimal.
* `Text.isLe`: the order of texts.
* `Text.splitOn`, `Text.joinWith`: cutting at a separator and putting together again.
* `Text.dropPrefix?`: what follows a given beginning.
-/

namespace LexBridge

/-- A Unicode code point. Surrogates are code points too, although no encoding form writes one. -/
abbrev CodePoint := Fin 0x110000

/-- There are code points, so numerals may stand for them. -/
instance neZero_codePoints : @NeZero Nat Zero.ofOfNat0 0x110000 := ⟨Nat.succ_ne_zero _⟩

/-- Code points that count as equal are the same. -/
instance lawfulBEq_codePoint : LawfulBEq CodePoint := inferInstance

/-- A text is the list of its code points. -/
abbrev Text := List CodePoint

namespace CodePoint

/-- The code point of a character; every character is below the bound. -/
def ofChar (c : Char) : CodePoint := Fin.ofNat 0x110000 c.toNat

/-- Whether a code point is half of a surrogate pair, hence not writable on its own. -/
def isSurrogate (c : CodePoint) : Bool := 0xD800 ≤ c.val && c.val ≤ 0xDFFF

/-- Whether a code point lies beyond the first 65536, so that UTF-16 needs a pair for it. -/
def isAstral (c : CodePoint) : Bool := 0xFFFF < c.val

/-- The character of a code point. A surrogate has none and gives the replacement character. -/
def toChar (c : CodePoint) : Char := if c.isSurrogate then '\uFFFD' else Char.ofNat c.val

/-- The code point of the hexadecimal digit for a value below sixteen, in lower case. -/
def hexDigit (n : Nat) : CodePoint :=
  Fin.ofNat 0x110000 (if n < 10 then 0x30 + n else 0x57 + n)

end CodePoint

namespace Text

/-- The text written by a literal. -/
def of (s : String) : Text := s.toList.map CodePoint.ofChar

/-- A text as a string. Only surrogates do not survive this. -/
def toString (text : Text) : String := String.ofList (text.map CodePoint.toChar)

/-- A natural number in decimal. -/
def ofNat (n : Nat) : Text := of n.repr

/-- An integer in decimal, with a minus sign if it is negative. -/
def ofInt (n : Int) : Text := of n.repr

/-- The last `width` hexadecimal digits of a number, padded with zeros, in lower case. -/
def ofNatHex : (width n : Nat) → Text
  | 0, _ => []
  | width + 1, n => ofNatHex width (n / 16) ++ [CodePoint.hexDigit (n % 16)]

/-- Whether a text comes before another one, or is the same, by the numbers of its code points. -/
def isLe : Text → Text → Bool
  | [], _ => true
  | _ :: _, [] => false
  | a :: as, b :: bs => a.val < b.val || (a.val = b.val && isLe as bs)

/-- The pieces between the occurrences of a separator. There is always at least one piece. -/
def splitOn (separator : CodePoint) : Text → List Text
  | [] => [[]]
  | c :: rest =>
    if c = separator then [] :: splitOn separator rest
    else
      match splitOn separator rest with
      | [] => [[c]]
      | piece :: pieces => (c :: piece) :: pieces

/-- Pieces put together with a separator between neighbours. -/
def joinWith (separator : Text) (pieces : List Text) : Text := separator.intercalate pieces

/-- What follows `start` in a text that begins with it. -/
def dropPrefix? : (start text : Text) → Option Text
  | [], text => some text
  | _ :: _, [] => none
  | a :: start, c :: text => if a = c then dropPrefix? start text else none

end Text

end LexBridge
