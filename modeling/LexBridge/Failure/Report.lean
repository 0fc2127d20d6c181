import LexBridge.Value

/-!
# Reported errors

A runner that somebody else provides may raise the errors of the library itself, with arguments of
its own. Such an error is told in the words of its arguments, whatever their types; only their
number is fixed for some families of errors.

## Main definitions

* `Report`, `Report.message`: an error that is raised with arguments, and its words.
* `Report.Family`, `Report.ofArguments`: the families of errors, and raising an error of one.
* `Report.ArityError`: why there is no error with the given arguments.
-/

namespace LexBridge

/-- An error with the arguments that it was raised with. -/
inductive Report
  | general (details : List Value)
  | noTool (details : List Value)
  | scratch (details : List Value)
  | toolFailed (stderr status : Value)
  | theme (name message : Value)
  deriving DecidableEq

namespace Report

/-- A message about a theme. -/
def aboutTheme (name : Value) (message : Text) : Text :=
  Text.of "Theme '" ++ name.display ++ Text.of "': " ++ message

/-- The words for an error. -/
def message : Report → Text
  | general details | noTool details | scratch details => Value.displayAll details
  | toolFailed stderr _ => stderr.display
  | theme name message => aboutTheme name message.display

/-- The families of errors. -/
inductive Family
  | general
  | noTool
  | scratch
  | toolFailed
  | theme
  deriving DecidableEq

/-- Why there is no error with the given arguments. -/
inductive ArityError
  | noStderr
  | overfullToolFailed (count : Nat)
  | noThemeArguments
  | noThemeMessage
  | overfullTheme (count : Nat)
  deriving DecidableEq

/-- The words for a wrong number of arguments. The error itself counts among those that were
given. -/
def ArityError.message : ArityError → Text
  | noStderr =>
    Text.of "ToolStderrError.__init__() missing 1 required positional argument: 'stderr'"
  | overfullToolFailed count =>
    Text.of "ToolStderrError.__init__() takes from 2 to 3 positional arguments but " ++
      Text.ofNat (count + 1) ++ Text.of " were given"
  | noThemeArguments =>
    Text.of "ThemeError.__init__() missing 2 required positional arguments: " ++
      Text.of "'theme_name' and 'message'"
  | noThemeMessage =>
    Text.of "ThemeError.__init__() missing 1 required positional argument: 'message'"
  | overfullTheme count =>
    Text.of "ThemeError.__init__() takes 3 positional arguments but " ++
      Text.ofNat (count + 1) ++ Text.of " were given"

/-- The error of a family with some arguments. The status of a failed tool may be left out. -/
def ofArguments : Family → List Value → Except ArityError Report
  | .general, details => .ok (.general details)
  | .noTool, details => .ok (.noTool details)
  | .scratch, details => .ok (.scratch details)
  | .toolFailed, [] => .error .noStderr
  | .toolFailed, [stderr] => .ok (.toolFailed stderr .null)
  | .toolFailed, [stderr, status] => .ok (.toolFailed stderr status)
  | .toolFailed, arguments => .error (.overfullToolFailed arguments.length)
  | .theme, [] => .error .noThemeArguments
  | .theme, [_] => .error .noThemeMessage
  | .theme, [name, message] => .ok (.theme name message)
  | .theme, arguments => .error (.overfullTheme arguments.length)

end Report

end LexBridge
