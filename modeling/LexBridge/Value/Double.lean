import LexBridge.Text.Basic

/-!
# Binary floating point numbers

A number with a fraction is a word of 64 bits: a sign, eleven bits of exponent and 52 bits of
fraction (IEEE 754, binary64). Every finite one is a whole multiple of the smallest positive one,
2⁻¹⁰⁷⁴, which is called a *unit* here. So numbers are compared, added and written in decimal by way
of these integers, and rounding, to the nearest number and to the even one of two that are as near,
is the last step of what makes a new number.

## Main definitions

* `Double`, `Double.units`: a word, and the number that it is.
* `Double.round`, `Double.ofInt?`: the nearest number to a fraction of units and to an integer.
* `Double.alike`, `Double.plus`: equality and addition.
* `Double.integer?`, `Double.truncated`: the integer that a number is, and the one without its
  fraction.
* `Double.render`: the shortest decimal that is read as the same number.
-/

namespace LexBridge

/-- A binary floating point number as a word. -/
structure Double where
  bits : UInt64
  deriving DecidableEq

namespace Double

/-! ### Words -/

/-- Whether the sign of a number is set. -/
def isNegative (x : Double) : Bool := 0x8000000000000000 ≤ x.bits.toNat

/-- The word of a number without its sign. -/
def word (x : Double) : Nat := x.bits.toNat % 0x8000000000000000

/-- The word of infinity. Words beyond it are no numbers. -/
def infiniteWord : Nat := 0x7FF0000000000000

/-- The number with a sign and a word. -/
def ofWord (negative : Bool) (word : Nat) : Double :=
  ⟨.ofNat (if negative then 0x8000000000000000 + word else word)⟩

/-- The word that arithmetic gives where there is no number. -/
def nan : Double := ⟨0x7FF8000000000000⟩

def isNan (x : Double) : Bool := infiniteWord < x.word

def isInfinite (x : Double) : Bool := x.word = infiniteWord

/-- How many units a finite number is away from zero. The lowest exponent has no leading bit. -/
def magnitude (x : Double) : Nat :=
  let exponent := x.word / 0x10000000000000
  let fraction := x.word % 0x10000000000000
  if exponent = 0 then fraction else (0x10000000000000 + fraction) <<< (exponent - 1)

/-- A finite number in units. Infinity comes out as more units than any finite number. -/
def units (x : Double) : Int := if x.isNegative then -(x.magnitude : Int) else x.magnitude

/-- How many units one is. -/
def unitsOfOne : Nat := 1 <<< 1074

/-! ### Rounding -/

/-- The integer nearest to a quotient, the even one of two that are as near. -/
def roundedQuotient (n d : Nat) : Nat :=
  let rest := 2 * (n % d)
  if d < rest ∨ (rest = d ∧ n / d % 2 = 1) then n / d + 1 else n / d

/-- The number of a sign that is nearest to `n / d` units. Of a quotient of more than 53 bits the
lowest ones are dropped; what is rounded up to 54 bits runs over into the exponent. -/
def round (negative : Bool) (n d : Nat) : Double :=
  let dropped := (n / d).log2 - 52
  let word := dropped * 0x10000000000000 + roundedQuotient n (d <<< dropped)
  ofWord negative (min word infiniteWord)

/-- The number nearest to an integer, unless that is too large. -/
def ofInt? (n : Int) : Option Double :=
  let x := round (n < 0) (n.natAbs * unitsOfOne) 1
  if x.isInfinite then none else some x

/-! ### Arithmetic -/

/-- Whether two numbers are equal. Both zeros are, and what is no number is equal to nothing. -/
def alike (x y : Double) : Bool := !x.isNan && !y.isNan && x.units = y.units

/-- The integer that a number is. -/
def integer? (x : Double) : Option Int :=
  if x.word < infiniteWord ∧ x.magnitude % unitsOfOne = 0 then some (x.units / unitsOfOne) else none

/-- A finite number without its fraction. -/
def truncated (x : Double) : Int := x.units.tdiv unitsOfOne

/-- The sum of two numbers. The sum of opposite numbers is the zero without a sign. -/
def plus (x y : Double) : Double :=
  if x.isNan ∨ y.isNan then nan
  else if x.isInfinite then if y.isInfinite ∧ x ≠ y then nan else x
  else if y.isInfinite then y
  else
    let sum := x.units + y.units
    if sum = 0 then ofWord (x.isNegative && y.isNegative) 0
    else round (sum < 0) sum.natAbs 1

/-! ### Decimals -/

/-- A power of ten as a numerator and a denominator. -/
def powerOfTen (power : Int) : Nat × Nat := (Nat.pow 10 power.toNat, Nat.pow 10 (-power).toNat)

/-- Where the decimal point of a finite number other than zero stands: behind so many digits or, if
that is negative, before so many zeros. No number is below `10⁻³²⁴`. -/
def point (x : Double) : Int :=
  (Nat.toDigits 10 (x.magnitude * Nat.pow 10 324 / unitsOfOne)).length - 324

/-- Whether a number is the one nearest to a decimal, which is `digits` times a power of ten. -/
def reads (x : Double) (digits : Nat) (power : Int) : Bool :=
  let (n, d) := powerOfTen power
  (round false (digits * n * unitsOfOne) d).word = x.word

/-- The decimal with a given last place that is nearest to a number, or else the one on the other
side of it, if one of them is read as the number. -/
def decimal? (x : Double) (power : Int) : Option (Nat × Int) :=
  let (d, n) := powerOfTen power
  let nearest := roundedQuotient (x.magnitude * n) (unitsOfOne * d)
  let other := 2 * (x.magnitude * n / (unitsOfOne * d)) + 1 - nearest
  ([nearest, other].find? (x.reads · power)).map (·, power)

/-- The shortest decimal that is read as a number. Seventeen digits are always enough. -/
def shortest (x : Double) : Nat × Int :=
  ((List.range' 1 17).findSome? fun count : Nat => x.decimal? (x.point - count)).getD (0, 0)

/-- Digits with a decimal point among or next to them, in a form with an exponent if the point would
be far away from them. -/
def layOut (digits : Text) (point : Int) : Text :=
  if point ≤ -4 ∨ 16 < point then
    let power := point - 1
    digits.take 1 ++ (if digits.length = 1 then [] else Text.of "." ++ digits.drop 1) ++
      Text.of (if power < 0 then "e-" else "e+") ++
      Text.of (if power.natAbs < 10 then "0" else "") ++ Text.ofNat power.natAbs
  else if point ≤ 0 then
    Text.of "0." ++ List.replicate (-point).toNat 0x30 ++ digits
  else if point < digits.length then
    digits.take point.toNat ++ Text.of "." ++ digits.drop point.toNat
  else
    digits ++ List.replicate (point.toNat - digits.length) 0x30 ++ Text.of ".0"

/-- A number as it is shown in a message. -/
def render (x : Double) : Text :=
  if x.isNan then Text.of "nan"
  else
    Text.of (if x.isNegative then "-" else "") ++
      if x.isInfinite then Text.of "inf"
      else if x.word = 0 then Text.of "0.0"
      else
        let (decimal, power) := x.shortest
        let digits := Text.ofNat decimal
        layOut (digits.reverse.dropWhile (· = 0x30)).reverse (digits.length + power)

end Double

end LexBridge
