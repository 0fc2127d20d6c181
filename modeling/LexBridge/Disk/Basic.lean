import LexBridge.Text.Quoted
import LexBridge.Text.Utf8

/-!
# Files on a disk

The part of a disk that a program sees from its working directory: folders, files with their
bytes, and the folder for files that are needed for a while only. Paths are followed part by part,
and a path that cannot be followed is refused for the first reason that is met on the way. On the
disk a name is a row of bytes, so a path must be encoded before anything else; a path that cannot be
encoded is refused at once, and it is neither made, read nor deleted.

What lies above the working directory or below the root exists, but nothing is known to be in it.

## Main definitions

* `Disk`, `FileName`, `Location`: the folders and files, what one is called, and where it stands.
* `TempDir`: the folder for temporary files, if there is one.
* `Disk.find`: what a path leads to.
* `Disk.create`, `Disk.write`, `Disk.read`, `Disk.delete`, `Disk.remove`: the operations on files.
* `Disk.listing`: all files below the working directory.
-/

namespace LexBridge

/-- A name on a disk: any bytes but NUL and the slash. -/
abbrev FileName := List UInt8

/-- Where something stands: the names that lead there from the working directory. Leading double
dots lead above it, and a leading slash starts at the root. -/
abbrev Location := List FileName

/-- The folder for temporary files, which a machine may also lack. -/
inductive TempDir
  | folder (path : Text)
  /-- None of the paths that are tried in turn can be used. -/
  | missing (tried : List Text)
  deriving DecidableEq

/-- Folders and files. The working directory is a folder without being listed. -/
structure Disk where
  tempDir : TempDir
  folders : List Location
  files : List (Location × List UInt8)
  deriving DecidableEq

namespace Disk

/-- Why a path is refused. -/
inductive Refusal
  /-- The path holds surrogates that no name can hold. -/
  | unencodable (run : Utf8.SurrogateRun)
  | embeddedNul
  | missing
  | notFolder
  | isFolder
  | present
  | nameTooLong
  deriving DecidableEq

/-- The words for the refusal of a path. -/
def Refusal.message (path : Text) : Refusal → Text
  | unencodable run => run.message
  | embeddedNul => Text.of "embedded null byte"
  | missing => Text.of "[Errno 2] No such file or directory: " ++ path.quoted
  | present => Text.of "[Errno 17] File exists: " ++ path.quoted
  | notFolder => Text.of "[Errno 20] Not a directory: " ++ path.quoted
  | isFolder => Text.of "[Errno 21] Is a directory: " ++ path.quoted
  | nameTooLong => Text.of "[Errno 36] File name too long: " ++ path.quoted

/-- The greatest number of bytes in a name. -/
def nameLimit : Nat := 255

/-- The greatest number of bytes in a path. -/
def pathLimit : Nat := 4095

/-- The location above another one. The root is above itself. -/
def parent (here : Location) : Location :=
  if here = [[0x2F]] then here
  else if here.all (· = [0x2E, 0x2E]) then here ++ [[0x2E, 0x2E]]
  else here.dropLast

/-- Whether a folder stands at a location. The working directory, what lies above it and the root
are folders. -/
def hasFolder (disk : Disk) (here : Location) : Bool :=
  here.all (· = [0x2E, 0x2E]) || here = [[0x2F]] || disk.folders.contains here

/-- The bytes of the file at a location. -/
def file? (disk : Disk) (here : Location) : Option (List UInt8) := disk.files.lookup here

/-- Goes on from a folder by one part of a path, to a folder again. -/
def descend (disk : Disk) (here : Location) (part : FileName) : Except Refusal Location :=
  if part = [] ∨ part = [0x2E] then .ok here
  else if part = [0x2E, 0x2E] then .ok (parent here)
  else if nameLimit < part.length then .error .nameTooLong
  else if disk.hasFolder (here ++ [part]) then .ok (here ++ [part])
  else if (disk.file? (here ++ [part])).isSome then .error .notFolder
  else .error .missing

/-- What stands at the end of a path. -/
inductive Entry
  | folder
  | file (bytes : List UInt8)
  | vacant
  deriving DecidableEq

/-- What a last part leads to from a folder. -/
def lookUp (disk : Disk) (here : Location) (part : FileName) : Except Refusal (Location × Entry) :=
  if part = [] ∨ part = [0x2E] then .ok (here, .folder)
  else if part = [0x2E, 0x2E] then .ok (parent here, .folder)
  else if nameLimit < part.length then .error .nameTooLong
  else if disk.hasFolder (here ++ [part]) then .ok (here ++ [part], .folder)
  else
    match disk.file? (here ++ [part]) with
    | some bytes => .ok (here ++ [part], .file bytes)
    | none => .ok (here ++ [part], .vacant)

/-- Follows the parts of a path from a folder on. -/
def walk (disk : Disk) (here : Location) : List FileName → Except Refusal (Location × Entry)
  | [] => .ok (here, .folder)
  | [part] => disk.lookUp here part
  | part :: parts =>
    match disk.descend here part with
    | .ok next => disk.walk next parts
    | .error refusal => .error refusal

/-- What a path leads to. A slash at the end asks for a folder. -/
def find (disk : Disk) (path : Text) : Except Refusal (Location × Entry) :=
  match Utf8.encodeName? path with
  | .error run => .error (.unencodable run)
  | .ok bytes =>
    if (0 : CodePoint) ∈ path then .error .embeddedNul
    else if path = [] then .error .missing
    else if pathLimit < bytes.length then .error .nameTooLong
    else
      disk.walk (if path.head? = some 0x2F then [[0x2F]] else [])
        ((path.splitOn 0x2F).map Utf8.encodeName)

/-- Makes an empty file at a path where nothing stands yet. -/
def create (disk : Disk) (path : Text) : Except Refusal Disk :=
  match disk.find path with
  | .error refusal => .error refusal
  | .ok (here, .vacant) => .ok { disk with files := disk.files ++ [(here, [])] }
  | .ok _ => .error .present

/-- Gives the file at a path, if there is one, new bytes. -/
def write (disk : Disk) (path : Text) (bytes : List UInt8) : Disk :=
  match disk.find path with
  | .ok (here, .file _) =>
    { disk with
      files := disk.files.map fun (place, old) => (place, if place = here then bytes else old) }
  | _ => disk

/-- The bytes of the file at a path. -/
def read (disk : Disk) (path : Text) : Except Refusal (List UInt8) :=
  match disk.find path with
  | .error refusal => .error refusal
  | .ok (_, .file bytes) => .ok bytes
  | .ok (_, .folder) => .error .isFolder
  | .ok (_, .vacant) => .error .missing

/-- Deletes the file at a path. -/
def delete (disk : Disk) (path : Text) : Except Refusal Disk :=
  match disk.find path with
  | .error refusal => .error refusal
  | .ok (here, .file _) =>
    .ok { disk with files := disk.files.filter fun (place, _) => place ≠ here }
  | .ok (_, .folder) => .error .isFolder
  | .ok (_, .vacant) => .error .missing

/-- Deletes the file at a path if that can be done, else nothing happens. -/
def remove (disk : Disk) (path : Text) : Disk := ((disk.delete path).toOption).getD disk

/-- The paths and bytes of all files below the working directory, in ascending order of path. -/
def listing (disk : Disk) : List (Text × List UInt8) :=
  let below := disk.files.filter fun (place, _) =>
    place.head? ≠ some [0x2E, 0x2E] ∧ place.head? ≠ some [0x2F]
  (below.map fun (place, bytes) =>
    (Text.joinWith [0x2F] (place.map Utf8.decodeName), bytes)).mergeSort fun a b => a.1.isLe b.1

end Disk

end LexBridge
