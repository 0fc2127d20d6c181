import LexBridge.Value

/-!
# Values of the wrong type

A loosely typed value may turn out to be of a type that does not allow what is asked of it. Then
there is a fault, which knows the type and what was asked. A number may also be out of the bounds of
another sort of numbers. Faults are found only when a value is used, so a value that is only handed
through never has one.

## Main definitions

* `Value.Fault`, `Value.Fault.message`: what may be wrong with the type of a value.
* `Value.elements`, `Value.fields`, `Value.path`: a value as a sequence, a mapping and a path.
* `Value.whole`: a number without its fraction.
* `Value.set`: the values of a list as a set.
* `Value.plus`, `Value.joined`: two values put together, and many of them as one text.
-/

namespace LexBridge.Value

/-- What the type of a value does not allow. -/
inductive Fault
  /-- A value without elements is gone through. -/
  | notIterable (typeName : Text)
  /-- A value is asked for an operation that its type lacks. -/
  | lacks (typeName operation : Text)
  /-- A value with parts is to be a member of a set, or a key. -/
  | unhashable (typeName : Text)
  /-- A value that is no text is to be a path. -/
  | notPath (typeName : Text)
  /-- A value is asked for the element at an index. -/
  | notIndexed (typeName : Text)
  /-- An object is asked for a key that it does not have. -/
  | noKey (key : Value)
  /-- A value that is no text is looked for in a text. -/
  | notPartOfText (typeName : Text)
  /-- A value is asked for its length. -/
  | noLength (typeName : Text)
  /-- The value at an index is to be put together with texts. -/
  | notJoinable (index : Nat) (typeName : Text)
  /-- A value that is no number is to be written as one. -/
  | notNumber (typeName : Text)
  /-- Infinity is to be an integer. -/
  | infinite
  /-- A floating point number that is no number is to be an integer. -/
  | nan
  /-- An integer is to be a floating point number, and all of these are below it. -/
  | tooLarge
  /-- A value that is no text is looked for. -/
  | notText (typeName : Text)
  /-- A value that is no text is to be written to a file. -/
  | notWritable (typeName : Text)
  /-- A value is to be put behind one of another type. -/
  | notAppendable (typeName other : Text)
  /-- Two values have no sum. -/
  | noSum (typeName other : Text)
  deriving DecidableEq

/-- The words for a value of the wrong type. -/
def Fault.message : Fault → Text
  | notIterable typeName => Text.of "'" ++ typeName ++ Text.of "' object is not iterable"
  | lacks typeName operation =>
    Text.of "'" ++ typeName ++ Text.of "' object has no attribute " ++ operation.quoted
  | unhashable typeName => Text.of "unhashable type: " ++ typeName.quoted
  | notPath typeName =>
    Text.of "expected str, bytes or os.PathLike object, not " ++ typeName
  | notIndexed typeName => Text.of "'" ++ typeName ++ Text.of "' object is not subscriptable"
  | noKey key => key.render
  | notPartOfText typeName =>
    Text.of "'in <string>' requires string as left operand, not " ++ typeName
  | noLength typeName =>
    Text.of "object of type '" ++ typeName ++ Text.of "' has no len()"
  | notJoinable index typeName =>
    Text.of "sequence item " ++ Text.ofNat index ++ Text.of ": expected str instance, " ++
      typeName ++ Text.of " found"
  | notNumber typeName =>
    Text.of "%d format: a real number is required, not " ++ typeName
  | infinite => Text.of "cannot convert float infinity to integer"
  | nan => Text.of "cannot convert float NaN to integer"
  | tooLarge => Text.of "int too large to convert to float"
  | notText typeName => Text.of "must be str, not " ++ typeName
  | notWritable typeName => Text.of "write() argument must be str, not " ++ typeName
  | notAppendable typeName other =>
    Text.of "can only concatenate " ++ typeName ++ Text.of " (not \"" ++ other ++
      Text.of "\") to " ++ typeName
  | noSum typeName other =>
    Text.of "unsupported operand type(s) for +: " ++ typeName.quoted ++ Text.of " and " ++
      other.quoted

/-- The elements of a value. -/
def elements (value : Value) : Except Fault (List Value) :=
  match value.elements? with
  | some elements => .ok elements
  | none => .error (.notIterable value.typeName)

/-- The fields of an object. -/
def fields : Value → Except Fault (List (Text × Value))
  | object fields => .ok fields
  | value => .error (.lacks value.typeName (Text.of "items"))

/-- A text that is to be a path. -/
def path : Value → Except Fault Text
  | text path => .ok path
  | value => .error (.notPath value.typeName)

/-- A number without its fraction. -/
def whole : Value → Except Fault Int
  | float value =>
    if value.isNan then .error .nan
    else if value.isInfinite then .error .infinite
    else .ok value.truncated
  | value =>
    match value.number? with
    | some n => .ok n
    | none => .error (.notNumber value.typeName)

/-! ### Sets -/

/-- Where a number stands among all others: the infinite ones at both ends, and between them each
by how many units it is. -/
def rank? : Value → Option (Int × Int)
  | float value =>
    some (if value.isInfinite then (if value.isNegative then -1 else 1, 0) else (0, value.units))
  | value => value.number?.map fun n => (0, n * Double.unitsOfOne)

/-- The order of the members of a set: null, numbers, texts, each ascending. -/
def memberLe (a b : Value) : Bool :=
  match a, b with
  | null, _ => true
  | _, null => false
  | text a, text b => a.isLe b
  | text _, _ => false
  | a, b =>
    match a.rank?, b.rank? with
    | some m, some n => m.1 < n.1 || (m.1 = n.1 && m.2 ≤ n.2)
    | _, _ => true

/-- The members among some values in their order, each once, as it came first. Only values without
parts can be members. -/
def set (values : List Value) : Except Fault (List Value) :=
  match values.find? fun value => !value.isAtom with
  | some value => .error (.unhashable value.typeName)
  | none => .ok ((values.mergeSort memberLe).eraseRepsBy alike)

/-! ### Putting together -/

/-- A number as a floating point number; the integers are rounded to one. -/
def double? : Value → Option (Except Fault Double)
  | float value => some (.ok value)
  | value => value.number?.map fun n => (Double.ofInt? n).elim (.error .tooLarge) .ok

/-- The sum of two values: of numbers, or of texts and lists put one behind the other. A floating
point number makes the sum one too. -/
def plus : Value → Value → Except Fault Value
  | text a, text b => .ok (text (a ++ b))
  | list as, list bs => .ok (list (as ++ bs))
  | a@(text _), b | a@(list _), b => .error (.notAppendable a.typeName b.typeName)
  | a@(float _), b | a, b@(float _) =>
    match a.double?, b.double? with
    | some m, some n => do return float ((← m).plus (← n))
    | _, _ => .error (.noSum a.typeName b.typeName)
  | a, b =>
    match a.number?, b.number? with
    | some m, some n => .ok (int (m + n))
    | _, _ => .error (.noSum a.typeName b.typeName)

/-- Texts put together with a separator between neighbours. A value that is no text is a fault, the
first one counts. -/
def joined (separator : Text) (values : List Value) : Except Fault Text :=
  (values.zipIdx.mapM fun
    | (text t, _) => Except.ok t
    | (value, index) => Except.error (Fault.notJoinable index value.typeName)).map
  (Text.joinWith separator)

end LexBridge.Value
