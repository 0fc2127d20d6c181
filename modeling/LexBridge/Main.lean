import LexBridge.Tool.Invocation

/-!
# The lexer tool as a program

Reads the file that the command line names, if it names one, leaves all else to `Tool.invoke`, and
writes what that answers.
-/

open LexBridge

/-- The bytes of a file, or why there are none. -/
def readFile (path : Text) : IO (Except Disk.Refusal (List UInt8)) := do
  if (0 : CodePoint) ∈ path then
    return .error .embeddedNul
  try
    return .ok (← IO.FS.readBinFile path.toString).toList
  catch
    | .inappropriateType .. => return .error .isFolder
    | .noFileOrDirectory .. => return .error .missing
    | .invalidArgument .. => return .error .nameTooLong
    | _ => return .error .missing

/-- Runs the tool on the arguments of the program. -/
def main (arguments : List String) : IO UInt32 := do
  let argv := arguments.map fun argument => Value.text (Text.of argument)
  let content ←
    match Tool.Request.parse argv with
    | .ok (.lex _ (.text infile)) => readFile infile
    | _ => pure (.error .missing)
  let exit := Tool.invoke .standard (fun _ => content) argv
  (← IO.getStdout).write ⟨(Utf8.encode exit.stdout).toArray⟩
  (← IO.getStderr).write ⟨(Utf8.encode exit.stderr).toArray⟩
  match exit.ending with
  | .status code => return code.toUInt32
  | _ => return 1
