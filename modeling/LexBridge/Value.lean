import LexBridge.Text.Quoted
import LexBridge.Value.Double

/-!
# Loosely typed values

Settings, theme mappings and the arguments of commands come from outside as values of any shape. A
value that is only handed through keeps its shape; the others are converted, and the messages of
failed conversions show the value or name its type.

Numbers are integers of any size or, if they are written with a fraction or an exponent, binary
floating point numbers. The two sorts are compared by what they are, without any rounding.

## Main definitions

* `Value`: the values, of which any two can be compared for equality.
* `Value.alike`: whether two values count as equal, though they may not be the same.
* `Value.isTruthy`: whether a value counts as true.
* `Value.isAtom`, `Value.number?`: the values without parts, and those that count as integers.
* `Value.elements?`: the elements of a value that is a sequence of some sort.
* `Value.render`, `Value.display`: a value in a message, and a value inside a text.
-/

namespace LexBridge

/-- A value from outside. -/
inductive Value
  | null
  | bool (value : Bool)
  | int (value : Int)
  | float (value : Double)
  | text (value : Text)
  | list (items : List Value)
  | object (fields : List (Text × Value))
  deriving Inhabited

namespace Value

/-! ### Equality -/

mutual

/-- Whether two values are the same. -/
def beq : Value → Value → Bool
  | null, null => true
  | bool a, bool b => a == b
  | int a, int b => a == b
  | float a, float b => a == b
  | text a, text b => a == b
  | list as, list bs => beqItems as bs
  | object as, object bs => beqFields as bs
  | _, _ => false

/-- Whether two lists hold the same values. -/
def beqItems : List Value → List Value → Bool
  | [], [] => true
  | a :: as, b :: bs => beq a b && beqItems as bs
  | _, _ => false

/-- Whether two objects have the same fields in the same order. -/
def beqFields : List (Text × Value) → List (Text × Value) → Bool
  | [], [] => true
  | (k, a) :: as, (l, b) :: bs => k == l && beq a b && beqFields as bs
  | _, _ => false

end

mutual

theorem beq_eq_true_iff : ∀ a b : Value, beq a b = true ↔ a = b
  | null, b | bool _, b | int _, b | float _, b | text _, b => by cases b <;> simp [beq]
  | list as, b => by cases b <;> simp [beq, beqItems_eq_true_iff as]
  | object as, b => by cases b <;> simp [beq, beqFields_eq_true_iff as]

theorem beqItems_eq_true_iff : ∀ as bs : List Value, beqItems as bs = true ↔ as = bs
  | [], bs => by cases bs <;> simp [beqItems]
  | a :: as, bs => by cases bs <;> simp [beqItems, beq_eq_true_iff a, beqItems_eq_true_iff as]

theorem beqFields_eq_true_iff :
    ∀ as bs : List (Text × Value), beqFields as bs = true ↔ as = bs
  | [], bs => by cases bs <;> simp [beqFields]
  | (k, a) :: as, bs => by
    cases bs <;>
      simp [beqFields, beq_eq_true_iff a, beqFields_eq_true_iff as, Prod.ext_iff]

end

instance : DecidableEq Value := fun a b => decidable_of_iff _ (beq_eq_true_iff a b)

mutual

/-- Whether two values count as equal. They may differ in the sort of a number, and in truth values
that stand for numbers: true is one, and false is zero. -/
def alike : Value → Value → Bool
  | null, null => true
  | bool a, bool b => a == b
  | bool a, int b => a.toInt == b
  | int a, bool b => a == b.toInt
  | int a, int b => a == b
  | float a, float b => a.alike b
  | float a, int b => a.integer? == some b
  | int a, float b => b.integer? == some a
  | float a, bool b => a.integer? == some b.toInt
  | bool a, float b => b.integer? == some a.toInt
  | text a, text b => a == b
  | list as, list bs => alikeItems as bs
  | object as, object bs => alikeFields as bs
  | _, _ => false

/-- Whether two lists hold values that count as equal. -/
def alikeItems : List Value → List Value → Bool
  | [], [] => true
  | a :: as, b :: bs => alike a b && alikeItems as bs
  | _, _ => false

/-- Whether two objects have fields that count as equal, in the same order. -/
def alikeFields : List (Text × Value) → List (Text × Value) → Bool
  | [], [] => true
  | (k, a) :: as, (l, b) :: bs => k == l && alike a b && alikeFields as bs
  | _, _ => false

end

/-! ### Views -/

/-- Every value counts as true, except null, false, zero and what is empty. -/
def isTruthy : Value → Bool
  | null => false
  | bool value => value
  | int value => value ≠ 0
  | float value => value.word ≠ 0
  | text value => value ≠ []
  | list items => !items.isEmpty
  | object fields => !fields.isEmpty

/-- The name of the type of a value. -/
def typeName : Value → Text
  | null => Text.of "NoneType"
  | bool _ => Text.of "bool"
  | int _ => Text.of "int"
  | float _ => Text.of "float"
  | text _ => Text.of "str"
  | list _ => Text.of "list"
  | object _ => Text.of "dict"

/-- Whether a value has no parts. Only such values are members of sets and stand as keys. -/
def isAtom : Value → Bool
  | list _ | object _ => false
  | _ => true

/-- The integer that a value counts as: true is one, false is zero. -/
def number? : Value → Option Int
  | bool value => some value.toNat
  | int value => some value
  | float value => value.integer?
  | _ => none

/-- The elements of a value: the characters of a text, the items of a list, the keys of an object.
Other values have none. -/
def elements? : Value → Option (List Value)
  | text value => some (value.map fun c => text [c])
  | list items => some items
  | object fields => some (fields.map fun (key, _) => text key)
  | _ => none

/-! ### Writing -/

mutual

/-- A value as it is shown in a message. -/
def render : Value → Text
  | null => Text.of "None"
  | bool true => Text.of "True"
  | bool false => Text.of "False"
  | int value => Text.ofInt value
  | float value => value.render
  | text value => value.quoted
  | list items => Text.of "[" ++ Text.joinWith (Text.of ", ") (renderItems items) ++ Text.of "]"
  | object fields =>
    [0x7B] ++ Text.joinWith (Text.of ", ") (renderFields fields) ++ [0x7D]

/-- The items of a list, shown one by one. -/
def renderItems : List Value → List Text
  | [] => []
  | item :: items => render item :: renderItems items

/-- The fields of an object, shown one by one as key and value. -/
def renderFields : List (Text × Value) → List Text
  | [] => []
  | (key, value) :: fields => (key.quoted ++ Text.of ": " ++ render value) :: renderFields fields

end

/-- A value inside a text: a text is itself, any other value is shown as in a message. -/
def display : Value → Text
  | text value => value
  | value => value.render

/-- Any number of values as one text: nothing for none, the value itself for one, and for more of
them a row between parentheses. -/
def displayAll : List Value → Text
  | [] => []
  | [value] => value.display
  | values => Text.of "(" ++ Text.joinWith (Text.of ", ") (renderItems values) ++ Text.of ")"

end Value

end LexBridge
