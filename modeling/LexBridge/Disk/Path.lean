import LexBridge.Text.Basic

/-!
# Paths

A path as a root and a list of parts. Repeated slashes, a slash at the end and parts that are a
single dot say nothing and are dropped; a part that is two dots stays, since it need not cancel the
part before it where links are followed.

## Main definitions

* `Path.ofText`, `Path.toText`: reading and writing.
* `Path.join`: a path read from another one on.
* `Path.name`: the last part.
-/

namespace LexBridge

/-- A path: where it starts, and its parts. The root is empty, one slash or two slashes. -/
structure Path where
  root : Text
  parts : List Text
  deriving DecidableEq

namespace Path

/-- What a path starts with. Exactly two slashes are a root of their own, more are as good as
one. -/
def rootOf (text : Text) : Text :=
  match (text.takeWhile (· = 0x2F)).length with
  | 0 => []
  | 2 => [0x2F, 0x2F]
  | _ => [0x2F]

/-- The path that a text writes. -/
def ofText (text : Text) : Path :=
  ⟨rootOf text, (text.splitOn 0x2F).filter fun part => part ≠ [] ∧ part ≠ [0x2E]⟩

/-- A path as text. The path of no parts is a single dot. -/
def toText (path : Path) : Text :=
  match path.root, path.parts with
  | [], [] => [0x2E]
  | root, parts => root ++ Text.joinWith [0x2F] parts

/-- The second path read from the first one on; a second path with a root stands for itself. -/
def join (base path : Path) : Path :=
  if path.root = [] then ⟨base.root, base.parts ++ path.parts⟩ else path

/-- The last part of a path, empty for a path without parts. -/
def name (path : Path) : Text := path.parts.getLastD []

end Path

end LexBridge
