import LexBridge.Failure
import LexBridge.Log
import LexBridge.Range.Locate

/-!
# Outcomes

A call that works on a disk ends in a result or a failure, leaves a disk behind, and has a journal
of what it did on the way: the records it logged, the commands it started, the runners it asked and
the calls that a callback got of it. A call may be made with a scratch file, which is removed
however the call ends.

## Main definitions

* `Event`, `Journal`: what may be noted, and the notes in order.
* `Outcome`: result, disk and journal of a call.
* `Scratch.within`: a call inside its scratch file.
-/

namespace LexBridge

/-- What is noted about a call. -/
inductive Event
  | logged (record : Log.Record)
  /-- A runner is asked to run the tool with arguments, while the disk is as given. -/
  | invoked (arguments : List Value) (disk : Disk)
  | started (command : List Value)
  /-- A callback gets a call, while the disk is as given. -/
  | called (call : Located) (disk : Disk)

/-- The notes about a call, in order. -/
abbrev Journal := List Event

namespace Journal

/-- The records among the notes. -/
def log (journal : Journal) : List Log.Record :=
  journal.filterMap fun
    | .logged record => some record
    | _ => none

/-- The commands that were started. -/
def commands (journal : Journal) : List (List Value) :=
  journal.filterMap fun
    | .started command => some command
    | _ => none

/-- What runners were asked, with the disks they found. -/
def invocations (journal : Journal) : List (List Value × Disk) :=
  journal.filterMap fun
    | .invoked arguments disk => some (arguments, disk)
    | _ => none

/-- The calls that callbacks got, with the disks at that time. -/
def calls (journal : Journal) : List (Located × Disk) :=
  journal.filterMap fun
    | .called call disk => some (call, disk)
    | _ => none

end Journal

/-- How a call on a disk ends. -/
structure Outcome (α : Type) where
  result : Except Failure α
  disk : Disk
  journal : Journal

namespace Outcome

variable {α : Type}

/-- A call that succeeds without touching the disk. -/
def done (value : α) (disk : Disk) (journal : Journal) : Outcome α := ⟨.ok value, disk, journal⟩

/-- A call that fails without touching the disk. -/
def failed (failure : Failure) (disk : Disk) (journal : Journal) : Outcome α :=
  ⟨.error failure, disk, journal⟩

end Outcome

/-- Makes a scratch file with the given source, makes a call with its path, and removes the file
again, whether the call succeeds or fails. Without the file the call is not made. -/
def Scratch.within {α : Type} (config : Config) (identifier source : Text)
    (call : Text → Disk → Outcome α) (disk : Disk) : Outcome α :=
  match enter config identifier source disk with
  | (disk, .error failure) => .failed (.scratch failure) disk []
  | (disk, .ok path) =>
    let outcome := call path disk
    ⟨outcome.result, leave path outcome.disk,
      .logged (.scratchCreated path) :: outcome.journal ++ [.logged (.scratchRemoved path)]⟩

end LexBridge
