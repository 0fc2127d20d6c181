import LexBridge.Value.Fault

/-!
# The command line of the lexer tool

The tool takes `-f FORMAT`, `-l LEXER` and `-N FILENAME`, each with a value of its own, `-h` or
`--help`, and the name of one file. A value may follow its option as the next argument, or stand in
the same argument with or without an equals sign. An argument that begins with a dash is an option,
unless it is a single dash, a negative number, or holds a space. Behind `--` nothing is an option,
and as a value in the same argument as its option `--` is dropped.

That is how the option parser of the first 3.11 releases reads a command line. In 3.11.10 and later
ones `--` stays where it is the value of an option. The digits of a number are those of every script
(general category Nd, Unicode 14).

The arguments are first sorted into items, each by itself, and the items are then taken in from
left to right. Arguments should be texts. Others may be values all the same, but those that count
as true are looked into first, as if they were sequences of characters.

## Main definitions

* `CodePoint.isDecimalDigit`: whether a code point is a decimal digit of some script.
* `Tool.Flag`, `Tool.Item`, `Tool.items`: the options, and what the arguments are.
* `Tool.Arguments`, `Tool.Intake.take`: the values given, and how items are taken in.
* `Tool.Stop`, `Tool.UsageError`: why a command line asks for no work.
* `Tool.Arguments.parse`: the values of a command line.
-/

namespace LexBridge

/-- The digit zero of each script, in ascending order. A script has its ten digits in a row, from
zero to nine. -/
def decimalZeros : List Nat :=
  [
    0x30, 0x660, 0x6F0, 0x7C0, 0x966, 0x9E6, 0xA66, 0xAE6, 0xB66, 0xBE6, 0xC66, 0xCE6, 0xD66, 0xDE6,
    0xE50, 0xED0, 0xF20, 0x1040, 0x1090, 0x17E0, 0x1810, 0x1946, 0x19D0, 0x1A80, 0x1A90, 0x1B50,
    0x1BB0, 0x1C40, 0x1C50, 0xA620, 0xA8D0, 0xA900, 0xA9D0, 0xA9F0, 0xAA50, 0xABF0, 0xFF10, 0x104A0,
    0x10D30, 0x11066, 0x110F0, 0x11136, 0x111D0, 0x112F0, 0x11450, 0x114D0, 0x11650, 0x116C0,
    0x11730, 0x118E0, 0x11950, 0x11C50, 0x11D50, 0x11DA0, 0x16A60, 0x16AC0, 0x16B50, 0x1D7CE,
    0x1D7D8, 0x1D7E2, 0x1D7EC, 0x1D7F6, 0x1E140, 0x1E2F0, 0x1E950, 0x1FBF0
  ]

/-- Whether a code point is one of the ten digits of some script. -/
def CodePoint.isDecimalDigit (c : CodePoint) : Bool :=
  decimalZeros.any fun first => first ≤ c.val && c.val ≤ first + 9

namespace Tool

/-- The options. -/
inductive Flag
  | help
  | format
  | lexer
  | guess
  deriving DecidableEq

namespace Flag

/-- The option with a letter. -/
def ofLetter? (c : CodePoint) : Option Flag :=
  if c = 0x68 then some help
  else if c = 0x66 then some format
  else if c = 0x6C then some lexer
  else if c = 0x4E then some guess
  else none

/-- An option as it is written in messages. -/
def name : Flag → Text
  | help => Text.of "-h/--help"
  | format => Text.of "-f"
  | lexer => Text.of "-l"
  | guess => Text.of "-N"

end Flag

/-! ### What the arguments are -/

/-- What an argument is. -/
inductive Item
  | plain (value : Value)
  /-- The `--` behind which nothing is an option. -/
  | divider
  /-- An option by its letter, and what stands behind that in the same argument. -/
  | letter (flag : Flag) (attached : Option Text)
  /-- The help option by its long name, and what an equals sign gives it. -/
  | longHelp (attached : Option Text)
  /-- Something that looks like an option and is none. -/
  | unknown (text : Text)
  deriving DecidableEq

/-- The dash. -/
def dash : CodePoint := 0x2D

/-- The two dashes that divide options from what is none. -/
def divider : Text := [dash, dash]

/-- The long name of the help option. -/
def longHelpName : Text := Text.of "--help"

/-- Whether a text is a number with a dash before it: digits, with at most one point among them,
which digits follow. A LF may stand at the end. -/
def isNegativeNumber (text : Text) : Bool :=
  match text with
  | [] => false
  | c :: rest =>
    let digits := if rest.getLast? = some 0x0A then rest.dropLast else rest
    let fraction := (digits.dropWhile (·.isDecimalDigit))
    c = dash &&
      match fraction with
      | [] => !digits.isEmpty
      | point :: more => point = 0x2E && !more.isEmpty && more.all (·.isDecimalDigit)

/-- The part of a text before the first equals sign, and the part behind it if there is one. -/
def splitAssignment (text : Text) : Text × Option Text :=
  (text.takeWhile (· ≠ 0x3D),
    match text.dropWhile (· ≠ 0x3D) with
    | [] => none
    | _ :: value => some value)

/-- The option that an argument names in full, with what an equals sign gives it. -/
def exactOption? (text : Text) : Option Item :=
  let (name, value) := splitAssignment text
  match name with
  | [a, c] => if a = dash then (Flag.ofLetter? c).map (Item.letter · value) else none
  | _ => if name = longHelpName then some (.longHelp value) else none

/-- The option that an argument names otherwise: the beginning of a long name, or a letter with a
value right behind it. -/
def looseOption? (text : Text) : Option Item :=
  match text with
  | a :: c :: rest =>
    if a = dash ∧ c = dash then
      let (name, value) := splitAssignment text
      if (Text.dropPrefix? name longHelpName).isSome then some (.longHelp value) else none
    else if a = dash then (Flag.ofLetter? c).map (Item.letter · (some rest))
    else none
  | _ => none

/-- What a text is where options are possible. -/
def textItem (text : Text) : Item :=
  if text.head? ≠ some dash ∨ text = [dash] then .plain (.text text)
  else
    match (exactOption? text).or (looseOption? text) with
    | some option => option
    | none =>
      if isNegativeNumber text ∨ 0x20 ∈ text then .plain (.text text) else .unknown text

/-- Whether a value passes for one that begins with no dash. A value that is no text is looked into
for its first character. -/
def checkBeginning : Value → Except Value.Fault Unit
  | .list (.text first :: _) =>
    if first = [] ∨ first = [dash] then .error (.unhashable (Value.list []).typeName) else .ok ()
  | .list (first :: _) => .error (.notPartOfText first.typeName)
  | .object (_ :: _) => .error (.noKey (.int 0))
  | .text _ | .list [] | .object [] => .ok ()
  | value => .error (.notIndexed value.typeName)

/-- What an argument is where options are possible. One that does not count as true is never an
option. -/
def item : Value → Except Value.Fault Item
  | .text text => .ok (textItem text)
  | value =>
    if value.isTruthy then (checkBeginning value).map fun _ => .plain value else .ok (.plain value)

/-- What the arguments are, or what is wrong with the first one that cannot be told. -/
def items : List Value → Except Value.Fault (List Item)
  | [] => .ok []
  | value :: values =>
    if value = .text divider then .ok (.divider :: values.map .plain)
    else
      match item value, items values with
      | .error fault, _ | .ok _, .error fault => .error fault
      | .ok first, .ok rest => .ok (first :: rest)

/-! ### Taking the items in -/

/-- What is wrong with a command line. -/
inductive UsageError
  | expectedOne (flag : Flag)
  | invalidFormat (value : Value)
  | ignoredValue (value : Text)
  | unrecognized (arguments : Text)
  | incomplete
  deriving DecidableEq

/-- The words for a bad command line. -/
def UsageError.message : UsageError → Text
  | expectedOne flag =>
    Text.of "argument " ++ flag.name ++ Text.of ": expected one argument"
  | invalidFormat value =>
    Text.of "argument -f: invalid choice: " ++ value.render ++ Text.of " (choose from 'raw')"
  | ignoredValue value =>
    Text.of "argument -h/--help: ignored explicit argument " ++ value.quoted
  | unrecognized arguments => Text.of "unrecognized arguments: " ++ arguments
  | incomplete => Text.of "-f raw -l LEXER FILE or -N FILENAME is required"

/-- Why a command line asks for no work. -/
inductive Stop
  | help
  | wrong (error : UsageError)
  /-- An argument is a value of the wrong type. -/
  | badValue (fault : Value.Fault)
  deriving DecidableEq

/-- The values that a command line gives, null where it gives none. The last occurrence of an option
counts. -/
structure Arguments where
  format : Value
  lexer : Value
  guess : Value
  infile : Value
  deriving DecidableEq

/-- No values at all. -/
def Arguments.none : Arguments := ⟨.null, .null, .null, .null⟩

/-- The only output format. -/
def rawFormat : Text := Text.of "raw"

namespace Arguments

/-- Gives an option a value, whatever it is. -/
def put (arguments : Arguments) (flag : Flag) (value : Value) : Arguments :=
  match flag with
  | .help => arguments
  | .format => { arguments with format := value }
  | .lexer => { arguments with lexer := value }
  | .guess => { arguments with guess := value }

/-- Gives an option its value, which has to be the output format where that is asked for. -/
def set (arguments : Arguments) (flag : Flag) (value : Value) : Except Stop Arguments :=
  if flag = .format ∧ value ≠ .text rawFormat then .error (.wrong (.invalidFormat value))
  else .ok (arguments.put flag value)

/-- Gives an option the text in the same argument. The first 3.11 releases
of the option parser drop it if it is `--`; the option is then left with an empty list, which is not
looked at further. -/
def attach (arguments : Arguments) (flag : Flag) (attached : Text) : Except Stop Arguments :=
  if attached = divider then .ok (arguments.put flag (.list []))
  else arguments.set flag (.text attached)

end Arguments

/-- What the text right behind the letter of the help option comes to. It is read as letters of
options. Help is given, unless a letter is none of an option or the option lacks its value. -/
def clusterStop (valueFollows : Bool) : Text → Stop
  | [] => .wrong (.ignoredValue [])
  | c :: rest =>
    match Flag.ofLetter? c with
    | none => .wrong (.ignoredValue (c :: rest))
    | some .help => if rest = [] then .help else clusterStop valueFollows rest
    | some flag => if rest = [] ∧ !valueFollows then .wrong (.expectedOne flag) else .help

/-- Whether the file of a command line is still to come, has just been given, or was given. -/
inductive Slot
  | vacant
  | justFilled
  | filled
  deriving DecidableEq

/-- What has been taken in: the values, whether the file is among them, and what is left over. -/
structure Intake where
  arguments : Arguments
  slot : Slot
  extras : List Value
  deriving DecidableEq

namespace Intake

/-- What there is before the first item. -/
def initial : Intake := ⟨.none, .vacant, []⟩

/-- The slot when an item that is no divider has passed it. -/
def settled : Slot → Slot
  | .justFilled => .filled
  | slot => slot

/-- The values when an option has been taken in. -/
def withArguments (intake : Intake) (arguments : Arguments) : Intake :=
  { intake with arguments, slot := settled intake.slot }

/-- Takes a plain argument in, which is the file or left over. -/
def plain (intake : Intake) (value : Value) : Intake :=
  match intake.slot with
  | .vacant =>
    ⟨{ intake.arguments with infile := value }, .justFilled, intake.extras⟩
  | _ => ⟨intake.arguments, .filled, intake.extras ++ [value]⟩

/-- Takes the divider in. It is left over too, unless it stands right before or behind the file. -/
def divider (intake : Intake) : Intake :=
  match intake.slot with
  | .vacant => intake
  | .justFilled => { intake with slot := .filled }
  | .filled => { intake with extras := intake.extras ++ [.text Tool.divider] }

/-- Whether a plain argument comes next, which an option may take as its value. -/
def valueFollows : List Item → Bool
  | .plain _ :: _ => true
  | _ => false

/-- Takes items in from left to right. -/
def take : Intake → List Item → Except Stop Intake
  | intake, [] => .ok intake
  | intake, .plain value :: rest => take (intake.plain value) rest
  | intake, .divider :: rest => take intake.divider rest
  | intake, .unknown text :: rest =>
    take { intake with slot := settled intake.slot, extras := intake.extras ++ [.text text] } rest
  | _, .longHelp none :: _ | _, .letter .help none :: _ => .error .help
  | _, .longHelp (some value) :: _ => .error (.wrong (.ignoredValue value))
  | _, .letter .help (some letters) :: rest => .error (clusterStop (valueFollows rest) letters)
  | intake, .letter flag (some attached) :: rest =>
    match intake.arguments.attach flag attached with
    | .error stop => .error stop
    | .ok arguments => take (intake.withArguments arguments) rest
  | intake, .letter flag none :: .plain value :: rest =>
    match intake.arguments.set flag value with
    | .error stop => .error stop
    | .ok arguments => take (intake.withArguments arguments) rest
  | _, .letter flag none :: _ => .error (.wrong (.expectedOne flag))

/-- The values taken in, if nothing is left over. -/
def finish (intake : Intake) : Except Stop Arguments :=
  if intake.extras = [] then .ok intake.arguments
  else
    match Value.joined [0x20] intake.extras with
    | .error fault => .error (.badValue fault)
    | .ok extras => .error (.wrong (.unrecognized extras))

end Intake

/-- The values of a command line. -/
def Arguments.parse (arguments : List Value) : Except Stop Arguments :=
  match items arguments with
  | .error fault => .error (.badValue fault)
  | .ok items =>
    match Intake.initial.take items with
    | .error stop => .error stop
    | .ok intake => intake.finish

end Tool

end LexBridge
