import LexBridge.Text.Basic

/-!
# UTF-8

Writing a text as bytes and reading it back. Reading is strict: no overlong forms, no surrogates,
nothing beyond U+10FFFF; a byte order mark is a character like any other. What is wrong with bad
bytes is part of the answer, because messages quote it and because a lenient reader replaces each
faulty stretch, not each byte, by one character.

The reader is a machine that takes one byte at a time, so that reading `a ++ b` is reading `a` and
then `b` from the state reached. Its output is a list of pieces, characters and faulty stretches,
whose bytes put together are the input again.

Names of files are bytes of any sort, and each of them is to have a text. There the bytes of a
faulty stretch are read one by one as the 128 surrogates from U+DC80 on, and these, which are
*escapes* of the bytes, are written as the bytes again. No other surrogate can be written even
there.

## Main definitions

* `Utf8.encode`: the bytes of a text; `Utf8.encode?` refuses surrogates and says where they stand.
* `Utf8.encodeName?`, `Utf8.decodeName`: writing and reading the name of a file.
* `Utf8.step`, `Utf8.scan`: the machine and its output.
* `Utf8.decode`: the text of some bytes, or the first fault.
* `Utf8.decodeReplacing`: the text of some bytes, each faulty stretch read as U+FFFD.
-/

namespace LexBridge.Utf8

/-! ### Writing -/

/-- The one to four bytes of a code point. A surrogate gets the three bytes that its number would
have; no strict reader takes them. -/
def encodeOne (c : CodePoint) : List UInt8 :=
  let n := c.val
  if n < 0x80 then [.ofNat n]
  else if n < 0x800 then [.ofNat (0xC0 + n / 0x40), .ofNat (0x80 + n % 0x40)]
  else if n < 0x10000 then
    [.ofNat (0xE0 + n / 0x1000), .ofNat (0x80 + n / 0x40 % 0x40), .ofNat (0x80 + n % 0x40)]
  else
    [.ofNat (0xF0 + n / 0x40000), .ofNat (0x80 + n / 0x1000 % 0x40),
      .ofNat (0x80 + n / 0x40 % 0x40), .ofNat (0x80 + n % 0x40)]

/-- The bytes of a text. -/
def encode (text : Text) : List UInt8 := text.flatMap encodeOne

/-- A longest row of neighbouring surrogates in a text: its first member, where that stands, and
how many more follow it. -/
structure SurrogateRun where
  character : CodePoint
  position : Nat
  more : Nat
  deriving DecidableEq

/-- The first row of surrogates in a text, from its first member on that is not allowed. -/
def SurrogateRun.first? (isAllowed : CodePoint → Bool) (text : Text) : Option SurrogateRun :=
  match text.dropWhile isAllowed with
  | [] => none
  | c :: rest => some
      { character := c
        position := (text.takeWhile isAllowed).length
        more := (rest.takeWhile (·.isSurrogate)).length }

/-- The first row of surrogates in a text. -/
def surrogateRun? (text : Text) : Option SurrogateRun := SurrogateRun.first? (!·.isSurrogate) text

/-- The bytes of a text that holds no surrogate. -/
def encode? (text : Text) : Except SurrogateRun (List UInt8) :=
  match surrogateRun? text with
  | none => .ok (encode text)
  | some run => .error run

/-- What is said about a text that cannot be written. -/
def SurrogateRun.message (run : SurrogateRun) : Text :=
  if run.more = 0 then
    Text.of "'utf-8' codec can't encode character '\\u" ++ Text.ofNatHex 4 run.character.val ++
      Text.of "' in position " ++ Text.ofNat run.position ++ Text.of ": surrogates not allowed"
  else
    Text.of "'utf-8' codec can't encode characters in position " ++ Text.ofNat run.position ++
      Text.of "-" ++ Text.ofNat (run.position + run.more) ++ Text.of ": surrogates not allowed"

/-! ### Writing names of files -/

/-- The byte that a surrogate is the escape of. -/
def escapedByte? (c : CodePoint) : Option UInt8 :=
  if 0xDC80 ≤ c.val ∧ c.val ≤ 0xDCFF then some (.ofNat (c.val - 0xDC00)) else none

/-- Whether a code point can stand in the name of a file. -/
def isNamable (c : CodePoint) : Bool := !c.isSurrogate || (escapedByte? c).isSome

/-- The bytes of a code point in the name of a file. -/
def encodeNameOne (c : CodePoint) : List UInt8 :=
  match escapedByte? c with
  | some b => [b]
  | none => encodeOne c

/-- The bytes of a name. -/
def encodeName (name : Text) : List UInt8 := name.flatMap encodeNameOne

/-- The bytes of a name that holds no surrogate but escapes. -/
def encodeName? (name : Text) : Except SurrogateRun (List UInt8) :=
  match SurrogateRun.first? isNamable name with
  | none => .ok (encodeName name)
  | some run => .error run

/-! ### Reading -/

/-- Why a stretch of bytes is no character. -/
inductive Flaw
  /-- No character begins with this byte. -/
  | startByte
  /-- A character was begun, and the next byte does not continue it. -/
  | continuation
  /-- A character was begun, and the bytes are at an end. -/
  | truncated
  deriving DecidableEq

/-- The words for a flaw. -/
def Flaw.message : Flaw → Text
  | startByte => Text.of "invalid start byte"
  | continuation => Text.of "invalid continuation byte"
  | truncated => Text.of "unexpected end of data"

/-- What the reader finds: a character, or a longest stretch that begins no character. -/
inductive Piece
  | character (c : CodePoint)
  | faulty (flaw : Flaw) (bytes : List UInt8)
  deriving DecidableEq

/-- A character of which some bytes are read: these bytes, the bits they give, the bounds for the
next byte, and how many bytes follow that one. -/
structure Begun where
  bytes : List UInt8
  bits : Nat
  low : Nat
  high : Nat
  more : Nat
  deriving DecidableEq

/-- The step at the first byte of a character. The bounds for the second byte shut out overlong
forms, surrogates and numbers beyond U+10FFFF. -/
def start (b : UInt8) : List Piece × Option Begun :=
  let n := b.toNat
  if n < 0x80 then ([.character (Fin.ofNat 0x110000 n)], none)
  else if n < 0xC2 then ([.faulty .startByte [b]], none)
  else if n < 0xE0 then ([], some ⟨[b], n - 0xC0, 0x80, 0xBF, 0⟩)
  else if n < 0xF0 then
    ([], some ⟨[b], n - 0xE0, if n = 0xE0 then 0xA0 else 0x80, if n = 0xED then 0x9F else 0xBF, 1⟩)
  else if n < 0xF5 then
    ([], some ⟨[b], n - 0xF0, if n = 0xF0 then 0x90 else 0x80, if n = 0xF4 then 0x8F else 0xBF, 2⟩)
  else ([.faulty .startByte [b]], none)

/-- The step at any byte. A byte that does not continue what was begun makes that faulty and is
then looked at afresh. -/
def step : Option Begun → UInt8 → List Piece × Option Begun
  | none, b => start b
  | some begun, b =>
    if begun.low ≤ b.toNat ∧ b.toNat ≤ begun.high then
      let bits := begun.bits * 0x40 + (b.toNat - 0x80)
      match begun.more with
      | 0 => ([.character (Fin.ofNat 0x110000 bits)], none)
      | more + 1 => ([], some ⟨begun.bytes ++ [b], bits, 0x80, 0xBF, more⟩)
    else
      let (pieces, next) := start b
      (.faulty .continuation begun.bytes :: pieces, next)

/-- The pieces of some bytes, read from a given state. -/
def scan : Option Begun → List UInt8 → List Piece
  | none, [] => []
  | some begun, [] => [.faulty .truncated begun.bytes]
  | state, b :: bytes =>
    let (pieces, next) := step state b
    pieces ++ scan next bytes

/-- The first faulty stretch of some bytes and where it begins. -/
structure Fault where
  position : Nat
  bytes : List UInt8
  flaw : Flaw
  deriving DecidableEq

/-- What is said about bytes that are no UTF-8. -/
def Fault.message (fault : Fault) : Text :=
  let place :=
    match fault.bytes with
    | [b] => Text.of "byte 0x" ++ Text.ofNatHex 2 b.toNat ++ Text.of " in position " ++
        Text.ofNat fault.position
    | bytes => Text.of "bytes in position " ++ Text.ofNat fault.position ++ Text.of "-" ++
        Text.ofNat (fault.position + bytes.length - 1)
  Text.of "'utf-8' codec can't decode " ++ place ++ Text.of ": " ++ fault.flaw.message

/-- The text of some pieces, the first of which begins at the given position. -/
def assemble : Nat → List Piece → Except Fault Text
  | _, [] => .ok []
  | position, .character c :: pieces =>
    (assemble (position + (encodeOne c).length) pieces).map (c :: ·)
  | position, .faulty flaw bytes :: _ => .error ⟨position, bytes, flaw⟩

/-- The text that some bytes write, or the first thing that is wrong with them. -/
def decode (bytes : List UInt8) : Except Fault Text := assemble 0 (scan none bytes)

/-- The text that some bytes write, if they are UTF-8. -/
def decode? (bytes : List UInt8) : Option Text := (decode bytes).toOption

/-- The text of some bytes, with one U+FFFD for each faulty stretch. -/
def decodeReplacing (bytes : List UInt8) : Text :=
  (scan none bytes).map fun
    | .character c => c
    | .faulty _ _ => 0xFFFD

/-- The text of a name, with one escape for each byte of a faulty stretch. -/
def decodeName (bytes : List UInt8) : Text :=
  (scan none bytes).flatMap fun
    | .character c => [c]
    | .faulty _ bytes => bytes.map fun b => Fin.ofNat 0x110000 (0xDC00 + b.toNat)

end LexBridge.Utf8
