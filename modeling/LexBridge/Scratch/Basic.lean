import LexBridge.Config.Basic
import LexBridge.Disk.Basic
import LexBridge.Disk.Path

/-!
# Scratch files

The lexer tool reads files only, so source text is put into a file for as long as the tool runs. A
scratch file has a name of its own, a configured beginning followed by an identifier, and it must
not exist before: a file that is there already is never touched.

Most of what keeps a scratch file from being made is told as just that. Not told are the failures to
find a directory for it and those for which the path itself is to blame, since it holds what no path
can hold; they come through as they are.

## Main definitions

* `Scratch.Failure`: why there is no scratch file.
* `Scratch.path`: where the scratch file of an identifier goes.
* `Scratch.giveUp`: what becomes of a file that could not be made or written.
* `Scratch.enter`, `Scratch.leave`: making and removing the file.
-/

namespace LexBridge.Scratch

/-- Why there is no scratch file. -/
inductive Failure
  /-- The configured directory is a value that is no path. -/
  | badDirectory (fault : Value.Fault)
  /-- No directory is configured, and the disk has none; these have been tried. -/
  | noDirectory (tried : List Text)
  | embeddedNul
  /-- The path holds surrogates that no name can hold. -/
  | unencodable (run : Utf8.SurrogateRun)
  /-- Something stands at the path already. -/
  | present (path : Text)
  /-- The disk refuses the path. -/
  | refused (path : Text) (refusal : Disk.Refusal)
  /-- The source holds surrogates, which no file can hold. -/
  | unwritable (path : Text) (run : Utf8.SurrogateRun)
  deriving DecidableEq

/-- The words for a failure. -/
def Failure.message : Failure → Text
  | badDirectory fault => fault.message
  | noDirectory tried =>
    Text.of "[Errno 2] No usable temporary directory found in " ++
      (Value.list (tried.map .text)).render
  | embeddedNul => Text.of "embedded null byte"
  | unencodable run => run.message
  | present path => Text.of "Scratch file already exists: " ++ path
  | refused path refusal =>
    Text.of "Cannot create scratch file " ++ path ++ Text.of ": " ++ refusal.message path
  | unwritable path run =>
    Text.of "Cannot create scratch file " ++ path ++ Text.of ": " ++ run.message

/-- Whether a failure is told as one to make the scratch file. The others pass through. -/
def Failure.isTold : Failure → Bool
  | badDirectory _ | noDirectory _ | embeddedNul | unencodable _ => false
  | present _ | refused _ _ | unwritable _ _ => true

/-- The directory for scratch files: the configured one, if it counts as true, else that of the
disk. -/
def directory (config : Config) (disk : Disk) : Except Failure Path :=
  if config.tempDir.isTruthy then
    (config.tempDir.path.map Path.ofText).mapError .badDirectory
  else
    match disk.tempDir with
    | .folder path => .ok (.ofText path)
    | .missing tried => .error (.noDirectory tried)

/-- Where the scratch file of an identifier goes. -/
def path (config : Config) (disk : Disk) (identifier : Text) : Except Failure Text :=
  (directory config disk).map fun directory =>
    (directory.join (.ofText (config.tempPrefix.display ++ identifier))).toText

/-- Gives up a scratch file for a failure: what there is of it is deleted. That the disk refuses
this does not matter, unless the path cannot even be encoded; then this is the failure that counts,
and the one before it is lost. -/
def giveUp (path : Text) (failure : Failure) (disk : Disk) : Disk × Except Failure Text :=
  match disk.delete path with
  | .ok left => (left, .error failure)
  | .error (.unencodable run) => (disk, .error (.unencodable run))
  | .error _ => (disk, .error failure)

/-- Makes a scratch file at a path. It is given up if its text cannot be written, and also where the
disk refused to make one; a file that was there before stays. -/
def createAt (path source : Text) (disk : Disk) : Disk × Except Failure Text :=
  match disk.create path with
  | .error .embeddedNul => (disk, .error .embeddedNul)
  | .error .present => (disk, .error (.present path))
  | .error refusal => giveUp path (.refused path refusal) disk
  | .ok opened =>
    match Utf8.encode? source with
    | .error run => giveUp path (.unwritable path run) opened
    | .ok bytes => (opened.write path bytes, .ok path)

/-- Makes the scratch file of an identifier and answers its path. -/
def enter (config : Config) (identifier source : Text) (disk : Disk) :
    Disk × Except Failure Text :=
  match path config disk identifier with
  | .error failure => (disk, .error failure)
  | .ok path => createAt path source disk

/-- Removes a scratch file. That it is gone already does not matter. -/
def leave (path : Text) (disk : Disk) : Disk := disk.remove path

end LexBridge.Scratch
