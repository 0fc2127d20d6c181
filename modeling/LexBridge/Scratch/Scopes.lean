import LexBridge.Log
import LexBridge.Scratch.Basic

/-!
# Overlapping scratch files

Several scratch files may exist at once, and they may be left in any order. This is the life of a
disk with any number of scratch scopes, each known by a label.

## Main definitions

* `Scratch.Scopes`: a disk and the scopes that are open on it.
* `Scratch.Step`, `Scratch.Report`: what may happen next, and what is told about it.
* `Scratch.Scopes.step`: the change that a step makes.
-/

namespace LexBridge.Scratch

/-- A disk with the labels and paths of the open scopes. -/
structure Scopes where
  disk : Disk
  opened : List (Nat × Text)

/-- What may happen to scratch scopes. -/
inductive Step
  /-- A scope is entered, under a label that no scope has had before. -/
  | enter (label : Nat) (config : Config) (identifier source : Text)
  /-- A scope is left, in the ordinary way or because of an error. -/
  | leave (label : Nat) (raised : Bool)
  /-- Somebody else deletes the file of an open scope. -/
  | delete (label : Nat)

/-- What a step comes to. -/
inductive Report
  | entered (path : Text)
  | failed (failure : Failure)
  /-- A scope is left; an error that left it goes on. -/
  | left (propagates : Bool)
  | deleted
  /-- There is no file to delete any more, or it cannot be reached. -/
  | notDeleted (path : Text) (refusal : Disk.Refusal)
  /-- The step names no open scope. -/
  | skipped

namespace Scopes

/-- The path of an open scope. -/
def path? (scopes : Scopes) (label : Nat) : Option Text := scopes.opened.lookup label

/-- Makes a step and tells about it. -/
def step (scopes : Scopes) : Step → Scopes × Report × List Log.Record
  | .enter label config identifier source =>
    match Scratch.enter config identifier source scopes.disk with
    | (disk, .error failure) => ({ scopes with disk }, .failed failure, [])
    | (disk, .ok path) =>
      (⟨disk, scopes.opened ++ [(label, path)]⟩, .entered path, [.scratchCreated path])
  | .leave label raised =>
    match scopes.path? label with
    | none => (scopes, .skipped, [])
    | some path =>
      (⟨Scratch.leave path scopes.disk, scopes.opened.filter fun (other, _) => other ≠ label⟩,
        .left raised, [.scratchRemoved path])
  | .delete label =>
    match scopes.path? label with
    | none => (scopes, .skipped, [])
    | some path =>
      match scopes.disk.delete path with
      | .error refusal => (scopes, .notDeleted path refusal, [])
      | .ok disk => ({ scopes with disk }, .deleted, [])

end Scopes

end LexBridge.Scratch
