import LexBridge.Outcome
import Mathlib.Data.List.Basic

/-!
# Reading a journal

What is read off a journal is read off its parts one after the other.

## Main definitions

* `Journal.warnings`: the warnings among the notes.

## Main results

* `Journal.log_append`, `Journal.commands_append`, `Journal.invocations_append`,
  `Journal.calls_append`: reading the parts.
-/

namespace LexBridge.Journal

/-- The warnings among the notes about a call. -/
def warnings (journal : Journal) : List Log.Record :=
  journal.log.filter fun record => record.level = .warning

/-! ### Parts -/

section Append

variable (a b : Journal)

@[simp] theorem log_append : log (a ++ b) = log a ++ log b := List.filterMap_append

@[simp] theorem commands_append : commands (a ++ b) = commands a ++ commands b :=
  List.filterMap_append

@[simp] theorem invocations_append : invocations (a ++ b) = invocations a ++ invocations b :=
  List.filterMap_append

@[simp] theorem calls_append : calls (a ++ b) = calls a ++ calls b := List.filterMap_append

end Append

/-! ### The first note -/

section Cons

variable (rest : Journal)

@[simp] theorem log_cons_logged (record : Log.Record) :
    log (.logged record :: rest) = record :: log rest := rfl

@[simp] theorem commands_cons_logged (record : Log.Record) :
    commands (.logged record :: rest) = commands rest := rfl

@[simp] theorem invocations_cons_logged (record : Log.Record) :
    invocations (.logged record :: rest) = invocations rest := rfl

@[simp] theorem invocations_cons_invoked (arguments : List Value) (disk : Disk) :
    invocations (.invoked arguments disk :: rest) = (arguments, disk) :: invocations rest := rfl

@[simp] theorem calls_cons_logged (record : Log.Record) :
    calls (.logged record :: rest) = calls rest := rfl

@[simp] theorem calls_cons_invoked (arguments : List Value) (disk : Disk) :
    calls (.invoked arguments disk :: rest) = calls rest := rfl

end Cons

/-! ### Notes of one sort -/

section Logged

variable (records : List Log.Record)

@[simp] theorem log_map_logged : log (records.map .logged) = records := by
  simp [log, List.filterMap_map]

@[simp] theorem commands_map_logged : commands (records.map .logged) = [] := by
  simp [commands]

@[simp] theorem invocations_map_logged : invocations (records.map .logged) = [] := by
  simp [invocations]

@[simp] theorem calls_map_logged : calls (records.map .logged) = [] := by
  simp [calls]

end Logged

@[simp] theorem calls_map_called (calls : List Located) (disk : Disk) :
    Journal.calls (calls.map fun call => .called call disk) =
      calls.map fun call => (call, disk) := by
  simp [Journal.calls, List.filterMap_map, List.filterMap_eq_map']

@[simp] theorem log_map_called (calls : List Located) (disk : Disk) :
    log (calls.map fun call => .called call disk) = [] := by
  simp [log]

@[simp] theorem invocations_map_called (calls : List Located) (disk : Disk) :
    invocations (calls.map fun call => .called call disk) = [] := by
  simp [invocations]

end LexBridge.Journal
