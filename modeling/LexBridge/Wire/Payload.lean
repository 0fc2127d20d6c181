import LexBridge.Text.Basic

/-!
# Hexadecimal payloads

The second field of a row of tool output: the bytes of a fragment as pairs of hexadecimal digits
between two wrapper characters, such as `'646566'`. Writing uses apostrophes and lower case;
reading takes any wrapper and either case, and passes over what is no pair of digits.

## Main definitions

* `Payload.ofBytes`: the payload that is written for some bytes.
* `Payload.isWellFormed`: whether a field has the shape of a payload.
* `Payload.bytes`: the bytes read from a field, well formed or not.
-/

namespace LexBridge.Payload

/-! ### Writing -/

/-- The two digits of a byte. -/
def digitsOf (b : UInt8) : Text := Text.ofNatHex 2 b.toNat

/-- The payload for some bytes. -/
def ofBytes (bytes : List UInt8) : Text := Text.of "'" ++ bytes.flatMap digitsOf ++ Text.of "'"

/-! ### Reading -/

/-- The shape of a payload: two wrapper characters and an even number of characters between them.
What the characters are is not looked at. -/
def isWellFormed (field : Text) : Bool := 2 ≤ field.length && field.length % 2 = 0

/-- The value of a lower case hexadecimal digit. -/
def digit? (c : CodePoint) : Option Nat :=
  if 0x30 ≤ c.val ∧ c.val ≤ 0x39 then some (c.val - 0x30)
  else if 0x61 ≤ c.val ∧ c.val ≤ 0x66 then some (c.val - 0x57)
  else none

/-- Lower case as far as digits can tell. The capitals of ASCII have their small letters. The
dotted capital I is the one character whose lower case takes two places, and so it shifts all
pairs after it. Every other character takes one place before and after and is a digit neither
time, so it may stay as it is. -/
def lower (c : CodePoint) : Text :=
  if 0x41 ≤ c.val ∧ c.val ≤ 0x5A then [Fin.ofNat 0x110000 (c.val + 0x20)]
  else if c.val = 0x130 then [0x69, 0x307]
  else [c]

/-- A field without its two wrapper characters. -/
def inner (field : Text) : Text := (field.drop 1).dropLast

/-- The bytes of the digit pairs at even places. A pair with a character that is no digit gives no
byte, and neither does a single character at the end. -/
def pairs : Text → List UInt8
  | high :: low :: rest =>
    match digit? high, digit? low with
    | some h, some l => .ofNat (16 * h + l) :: pairs rest
    | _, _ => pairs rest
  | _ => []

/-- The bytes that a field holds. -/
def bytes (field : Text) : List UInt8 := pairs ((inner field).flatMap lower)

end LexBridge.Payload
