import LexBridge.Proofs.Token.RoundTrip

/-!
# What the log tells about a stream

A stream may lose text for two reasons: a malformed payload, and a run that is not UTF-8. Each is
told about once, in this order, and then the tokens are counted. A run that is not UTF-8 hides a
malformed payload behind it if the run is closed before that is reached, and so the last run is the
one that may be faulty beside a malformed payload. If nothing is told, nothing is lost.

## Main definitions

* `Stream.FirstFault`: the first run that is not UTF-8, and where it stands.

## Main results

* `Stream.warnings_eq_nil_iff`: which streams have no warnings.
* `Stream.flatMap_bytes_runs`, `Stream.flatMap_encode_tokensOfRuns`: runs and tokens hold the bytes
  of the rows.
* `decodeLines_log`: the records about a stream, and that without a warning no byte is lost.
-/

namespace LexBridge

namespace Stream

/-! ### The first fault -/

/-- The first run that is not UTF-8, with the runs before it and those behind it. -/
structure FirstFault (runs before : List Run) (run : Run) (after : List Run) : Prop where
  runs_eq : runs = before ++ run :: after
  isUtf8_before : ∀ earlier ∈ before, earlier.isUtf8 = true
  isUtf8_run : run.isUtf8 = false

theorem find?_eq_some_iff_firstFault {runs : List Run} {run : Run} :
    (runs.find? fun run => !run.isUtf8) = some run ↔
      ∃ before after, FirstFault runs before run after := by
  rw [List.find?_eq_some_iff_append]
  constructor
  · rintro ⟨hrun, before, after, hruns, hbefore⟩
    exact ⟨before, after, hruns, by simpa using hbefore, by simpa using hrun⟩
  · rintro ⟨before, after, hruns, hbefore, hrun⟩
    exact ⟨by simp [hrun], before, after, hruns, by simpa using hbefore⟩

/-- A run before the last one is not UTF-8 just if runs stand behind the first fault. -/
theorem exists_firstFault_iff {runs : List Run} :
    (∃ before run after, FirstFault runs before run after ∧ after ≠ []) ↔
      ¬ ∀ run ∈ runs.dropLast, run.isUtf8 = true := by
  constructor
  · rintro ⟨before, run, after, ⟨rfl, -, hrun⟩, hafter⟩ hall
    have hmem : run ∈ (before ++ run :: after).dropLast := by
      rw [List.dropLast_append_of_ne_nil (List.cons_ne_nil _ _),
        List.dropLast_cons_of_ne_nil hafter]
      exact List.mem_append_right _ List.mem_cons_self
    exact Bool.false_ne_true (hrun.symm.trans (hall run hmem))
  · intro hall
    have hsome : ((runs.dropLast).find? fun run => !run.isUtf8).isSome = true := by
      simpa using hall
    obtain ⟨run, hfind⟩ := Option.isSome_iff_exists.mp hsome
    obtain ⟨before, after, hfault⟩ := find?_eq_some_iff_firstFault.mp hfind
    have hruns : runs ≠ [] := fun hnil => hall (hnil ▸ List.forall_mem_nil _)
    refine ⟨before, run, after ++ [runs.getLast hruns], ⟨?_, hfault.isUtf8_before,
      hfault.isUtf8_run⟩, List.append_ne_nil_of_right_ne_nil _ (List.cons_ne_nil _ _)⟩
    calc runs = runs.dropLast ++ [runs.getLast hruns] := (List.dropLast_append_getLast hruns).symm
      _ = before ++ run :: (after ++ [runs.getLast hruns]) := by
        rw [hfault.runs_eq, List.append_assoc, List.cons_append]

/-! ### Streams without warnings -/

/-- **There is no warning just if no payload is malformed and all runs are UTF-8.** -/
theorem warnings_eq_nil_iff {malformed : Option Text} {runs : List Run} :
    warnings malformed runs = [] ↔ malformed = none ∧ ∀ run ∈ runs, run.isUtf8 = true := by
  have hfind : (runs.find? fun run => !run.isUtf8) = none ↔ ∀ run ∈ runs, run.isUtf8 = true := by
    simp
  have hlast (h : ∀ run ∈ runs, run.isUtf8 = true) : runs.dropLast.all Run.isUtf8 = true :=
    List.all_eq_true.mpr fun run hrun => h run (List.dropLast_subset _ hrun)
  rw [warnings, List.append_eq_nil_iff, List.map_eq_nil_iff, Option.toList_eq_nil_iff, hfind]
  refine and_congr_left fun h => ?_
  rw [if_pos (hlast h), List.map_eq_nil_iff, Option.toList_eq_nil_iff]

theorem level_of_mem_warnings {malformed : Option Text} {runs : List Run} {record : Log.Record}
    (h : record ∈ warnings malformed runs) : record.level = .warning := by
  rcases List.mem_append.mp h with h | h
  · split at h
    · obtain ⟨payload, -, rfl⟩ := List.mem_map.mp h
      rfl
    · exact absurd h List.not_mem_nil
  · obtain ⟨run, -, rfl⟩ := List.mem_map.mp h
    rfl

/-! ### Bytes -/

theorem flatMap_bytes_gather (row : Run) (runs : List Run) :
    (gather row runs).flatMap (·.bytes) = row.bytes ++ runs.flatMap (·.bytes) := by
  cases runs with
  | nil => simp [gather]
  | cons run runs =>
    rw [gather]
    split <;> simp

/-- Runs hold the bytes of the rows. -/
theorem flatMap_bytes_runs (rows : List Run) :
    (runs rows).flatMap (·.bytes) = rows.flatMap (·.bytes) := by
  induction rows with
  | nil => rfl
  | cons row rows ih => rw [runs_cons, flatMap_bytes_gather, ih, List.flatMap_cons]

/-- Tokens hold the bytes of the runs, if these are all UTF-8. -/
theorem flatMap_encode_tokensOfRuns {runs : List Run} (h : ∀ run ∈ runs, run.isUtf8 = true) :
    ((tokensOfRuns runs).flatMap fun token => Utf8.encode token.payload) =
      runs.flatMap (·.bytes) := by
  induction runs with
  | nil => rfl
  | cons run runs ih =>
    obtain ⟨hrun, hruns⟩ := List.forall_mem_cons.mp h
    obtain ⟨token, hwritable, rfl⟩ := exists_eq_run hrun
    rw [tokensOfRuns_cons, if_pos hrun, tokensOfRuns_singleton_run hwritable,
      List.flatMap_append, ih hruns, List.flatMap_cons]
    by_cases hnil : token.payload = []
    · simp [hnil, Token.run]
    · simp [hnil, Token.run]

/-- Without a malformed payload, the rows hold the bytes of all two-field lines. -/
theorem flatMap_bytes_rows {lines : List Text} (h : malformed? lines = none) :
    (rows lines).flatMap (·.bytes) =
      (fields lines).flatMap fun field => Payload.bytes field.2 := by
  rw [rows_of_malformed?_eq_none h, List.flatMap_map]

end Stream

/-- **The log tells what is lost of a stream, and why.** There are three records at most. The first
malformed payload is told unless the stream is cut short before it, by a run that is not UTF-8 and
not the last one. The first run that is not UTF-8 is told in any case. Then the tokens are counted,
and the count says whether the stream was cut short. Without a warning, the tokens hold the bytes of
all two-field lines. -/
theorem decodeLines_log (lines : List Text) :
    ∃ (malformed : Option Text) (invalid : Option Kind) (truncated : Bool),
      (decodeLines lines).log =
          malformed.toList.map .malformedPayload ++ invalid.toList.map .invalidRun ++
            [.decoded (decodeLines lines).tokens.length truncated] ∧
      (∀ payload, malformed = some payload ↔ Stream.malformed? lines = some payload ∧
        ∀ run ∈ (Stream.runs (Stream.rows lines)).dropLast, run.isUtf8 = true) ∧
      (∀ kind, invalid = some kind ↔ ∃ before run after,
        Stream.FirstFault (Stream.runs (Stream.rows lines)) before run after ∧ run.kind = kind) ∧
      (truncated = true ↔ Stream.malformed? lines ≠ none ∨ ∃ before run after,
        Stream.FirstFault (Stream.runs (Stream.rows lines)) before run after ∧ after ≠ []) ∧
      ((∀ record ∈ (decodeLines lines).log, record.level ≠ .warning) →
        ((decodeLines lines).tokens.flatMap fun token => Utf8.encode token.payload) =
          (Stream.fields lines).flatMap fun field => Payload.bytes field.2) := by
  rw [decodeLines_eq, Stream.decoded, List.nil_append]
  generalize hruns : Stream.runs (Stream.rows lines) = runs
  refine ⟨if runs.dropLast.all Run.isUtf8 then Stream.malformed? lines else none,
    (runs.find? fun run => !run.isUtf8).map (·.kind),
    Stream.isTruncated (Stream.malformed? lines) runs, ?_, ?_, ?_, ?_, ?_⟩
  · rw [Stream.warnings]
    split <;> simp [Option.toList_map]
  · intro payload
    rw [Option.ite_none_right_eq_some, List.all_eq_true]
    exact and_comm
  · intro kind
    rw [Option.map_eq_some_iff]
    constructor
    · rintro ⟨run, hfind, hkind⟩
      obtain ⟨before, after, hfault⟩ := Stream.find?_eq_some_iff_firstFault.mp hfind
      exact ⟨before, run, after, hfault, hkind⟩
    · rintro ⟨before, run, after, hfault, hkind⟩
      exact ⟨run, Stream.find?_eq_some_iff_firstFault.mpr ⟨before, after, hfault⟩, hkind⟩
  · rw [Stream.exists_firstFault_iff, Stream.isTruncated]
    simp [Option.isSome_iff_ne_none]
  · intro hlevels
    have hnone : Stream.warnings (Stream.malformed? lines) runs = [] :=
      List.eq_nil_iff_forall_not_mem.mpr fun record hrecord =>
        hlevels record (List.mem_append_left _ hrecord) (Stream.level_of_mem_warnings hrecord)
    obtain ⟨hmalformed, hutf8⟩ := Stream.warnings_eq_nil_iff.mp hnone
    rw [Stream.flatMap_encode_tokensOfRuns hutf8, ← hruns, Stream.flatMap_bytes_runs,
      Stream.flatMap_bytes_rows hmalformed]

/-- Of two faults, the malformed payload is told first, although the run before it is faulty. -/
example : (decodeLines [Text.of "Token.Text\t'ff'", Text.of "Token.Name\t'6'"]).log =
    [.malformedPayload (Text.of "'6'"), .invalidRun .text, .decoded 0 true] := by
  decide +kernel

theorem decodeLines_log_clean :
    let lines := [Text.of "Token.Text\t'c3'", Text.of "no fields", Text.of "Token.Text\t'a9'"]
    (∀ record ∈ (decodeLines lines).log, record.level ≠ .warning) ∧
      ((decodeLines lines).tokens.flatMap fun token => Utf8.encode token.payload) =
        [0xC3, 0xA9] := by
  intro lines
  have hlevels : ∀ record ∈ (decodeLines lines).log, record.level ≠ .warning := by
    have hlog : (decodeLines lines).log = [.decoded 1 false] := by decide +kernel
    rw [hlog, List.forall_mem_singleton]
    decide
  obtain ⟨-, -, -, -, -, -, -, hbytes⟩ := decodeLines_log lines
  refine ⟨hlevels, (hbytes hlevels).trans ?_⟩
  decide +kernel

end LexBridge
