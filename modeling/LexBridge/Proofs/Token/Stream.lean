import LexBridge.Proofs.Text.Utf8
import LexBridge.Token.Meaning
import Mathlib.Data.List.Chain

/-!
# The decoder computes what a stream means

The decoder works line by line on a pending run and may halt at three places: at a malformed
payload, at a run that cannot be closed when the kind changes, and at the end. What it makes of a
stream is said without these by `Stream.tokens` and `Stream.warnings`.

The invariant is that nothing is decided about the pending run before its end: the decoder still
has to make of the lines what the pending run means *in front of* the rows of these lines. A line
either leaves that as it is (`Decoder.feed_cases`), or halts the decoder with just what was meant.

## Main definitions

* `Decoder.complete`: all that a decoder makes of the lines that are still to come.
* `Stream.decoded`: the meaning of runs behind tokens that are there already.

## Main results

* `Stream.isChain_runs`: neighbouring runs differ in kind.
* `Decoder.complete_eq`: the invariant, for every decoder that has not halted.
* `decodeLines_eq`: tokens and log of a whole stream.
* `decodeLines_tokens`: the tokens of a whole stream.
-/

namespace LexBridge

/-! ### Runs -/

namespace Stream

theorem gather_ne_nil (row : Run) (runs : List Run) : gather row runs ≠ [] := by
  cases runs with
  | nil => exact List.cons_ne_nil _ _
  | cons run runs =>
    rw [gather]
    split <;> exact List.cons_ne_nil _ _

/-- Two rows of one kind may be put together first. -/
theorem gather_gather (kind : Kind) (a b : List UInt8) (runs : List Run) :
    gather ⟨kind, a⟩ (gather ⟨kind, b⟩ runs) = gather ⟨kind, a ++ b⟩ runs := by
  cases runs with
  | nil => simp [gather]
  | cons run runs =>
    by_cases h : kind = run.kind
    · subst h
      simp [gather]
    · simp [gather, h]

/-- A row of another kind stays by itself. -/
theorem gather_gather_of_ne {row next : Run} (h : row.kind ≠ next.kind) (runs : List Run) :
    gather row (gather next runs) = row :: gather next runs := by
  cases runs with
  | nil => simp [gather, h]
  | cons run runs =>
    by_cases hn : next.kind = run.kind
    · simp [gather, hn, hn ▸ h]
    · simp [gather, hn, h]

theorem runs_cons (row : Run) (rows : List Run) : runs (row :: rows) = gather row (runs rows) := rfl

theorem isChain_gather {runs : List Run} (h : runs.IsChain fun a b => a.kind ≠ b.kind) (row : Run) :
    (gather row runs).IsChain fun a b => a.kind ≠ b.kind := by
  cases runs with
  | nil => exact .singleton row
  | cons run runs =>
    rw [gather]
    split
    · cases runs with
      | nil => exact .singleton _
      | cons next runs =>
        rw [List.isChain_cons_cons] at h ⊢
        exact h
    · rw [List.isChain_cons_cons]
      exact ⟨‹_›, h⟩

/-- **Runs are as long as they can be**: neighbouring runs differ in kind. -/
theorem isChain_runs (rows : List Run) : (runs rows).IsChain fun a b => a.kind ≠ b.kind := by
  induction rows with
  | nil => exact .nil
  | cons row rows ih => exact isChain_gather ih row

/-! ### The rows among the lines -/

theorem fields_append (front back : List Text) :
    fields (front ++ back) = fields front ++ fields back :=
  List.filterMap_append

theorem rows_nil : rows [] = [] := rfl

theorem malformed?_nil : malformed? [] = none := rfl

section Cons

variable {line name payload : Text} (lines : List Text)

theorem rows_cons_of_fields?_eq_none (h : Row.fields? line = none) :
    rows (line :: lines) = rows lines := by
  simp [rows, fields, h]

theorem malformed?_cons_of_fields?_eq_none (h : Row.fields? line = none) :
    malformed? (line :: lines) = malformed? lines := by
  simp [malformed?, fields, h]

theorem rows_cons_of_isWellFormed (h : Row.fields? line = some (name, payload))
    (hw : Payload.isWellFormed payload = true) :
    rows (line :: lines) = ⟨Kind.ofLabel name, Payload.bytes payload⟩ :: rows lines := by
  simp [rows, fields, h, hw]

theorem malformed?_cons_of_isWellFormed (h : Row.fields? line = some (name, payload))
    (hw : Payload.isWellFormed payload = true) :
    malformed? (line :: lines) = malformed? lines := by
  simp [malformed?, fields, h, hw]

theorem rows_cons_of_not_isWellFormed (h : Row.fields? line = some (name, payload))
    (hw : Payload.isWellFormed payload = false) : rows (line :: lines) = [] := by
  simp [rows, fields, h, hw]

theorem malformed?_cons_of_not_isWellFormed (h : Row.fields? line = some (name, payload))
    (hw : Payload.isWellFormed payload = false) :
    malformed? (line :: lines) = some payload := by
  simp [malformed?, fields, h, hw]

end Cons

theorem forall_isWellFormed_of_malformed?_eq_none {lines : List Text}
    (h : malformed? lines = none) :
    ∀ field ∈ fields lines, Payload.isWellFormed field.2 = true := by
  simpa [malformed?] using h

/-- Without a malformed payload, all two-field lines are rows. -/
theorem rows_of_malformed?_eq_none {lines : List Text} (h : malformed? lines = none) :
    rows lines = (fields lines).map fun field =>
      ⟨Kind.ofLabel field.1, Payload.bytes field.2⟩ := by
  rw [rows, List.takeWhile_eq_self_iff.mpr (forall_isWellFormed_of_malformed?_eq_none h)]

/-! ### Meanings -/

theorem tokens?_eq (run : Run) :
    run.tokens? = if run.isUtf8 then some (tokensOfRuns [run]) else none := by
  cases hd : Utf8.decode? run.bytes <;> by_cases hb : run.bytes = [] <;>
    simp_all [Run.tokens?, Run.isUtf8, tokensOfRuns, Run.token?]

theorem tokensOfRuns_cons (run : Run) (runs : List Run) :
    tokensOfRuns (run :: runs) =
      if run.isUtf8 then tokensOfRuns [run] ++ tokensOfRuns runs else [] := by
  by_cases hu : run.isUtf8
  · rw [if_pos hu]
    simp only [tokensOfRuns, List.takeWhile_cons_of_pos hu, ← List.filterMap_append,
      ← List.filter_append, List.takeWhile_nil, List.singleton_append]
  · simp [tokensOfRuns, hu]

theorem tokensOfRuns_singleton_of_not_isUtf8 {run : Run} (hu : run.isUtf8 = false) :
    tokensOfRuns [run] = [] := by
  simp [tokensOfRuns, hu]

/-- Tokens have text. -/
theorem payload_ne_nil_of_mem_tokensOfRuns {runs : List Run} {token : Token}
    (h : token ∈ tokensOfRuns runs) : token.payload ≠ [] := by
  obtain ⟨run, hrun, htoken⟩ := List.mem_filterMap.mp h
  obtain ⟨payload, hdecode, rfl⟩ := Option.map_eq_some_iff.mp htoken
  have hbytes : run.bytes ≠ [] := by simpa using (List.mem_filter.mp hrun).2
  exact Utf8.ne_nil_of_decode? hdecode hbytes

/-- What runs mean behind tokens that are there already: all tokens, and the log. -/
def decoded (before : List Token) (malformed : Option Text) (runs : List Run) : Decoded :=
  let tokens := before ++ tokensOfRuns runs
  ⟨tokens, warnings malformed runs ++ [.decoded tokens.length (isTruncated malformed runs)]⟩

/-- A run that is UTF-8 means its tokens, if it is not the last one. -/
theorem decoded_cons_of_isUtf8 {run : Run} {runs : List Run} (hu : run.isUtf8 = true)
    (hruns : runs ≠ []) (before : List Token) (malformed : Option Text) :
    decoded before malformed (run :: runs) =
      decoded (before ++ tokensOfRuns [run]) malformed runs := by
  have hlast : (run :: runs).dropLast = run :: runs.dropLast := List.dropLast_cons_of_ne_nil hruns
  simp [decoded, tokensOfRuns_cons run runs, warnings, isTruncated, hlast, hu]

/-- A run that is not UTF-8 cuts the stream short, if it is not the last one. -/
theorem decoded_cons_of_not_isUtf8 {run : Run} {runs : List Run} (hu : run.isUtf8 = false)
    (hruns : runs ≠ []) (before : List Token) (malformed : Option Text) :
    decoded before malformed (run :: runs) =
      ⟨before, [.invalidRun run.kind, .decoded before.length true]⟩ := by
  have hlast : (run :: runs).dropLast = run :: runs.dropLast := List.dropLast_cons_of_ne_nil hruns
  simp [decoded, tokensOfRuns_cons run runs, warnings, isTruncated, hlast, hu]

end Stream

/-! ### Lines -/

namespace Decoder

/-- All that a decoder makes of the lines that are still to come. -/
def complete (decoder : Decoder) (lines : List Text) : Decoded :=
  let (fed, notes) := decoder.feedAll lines
  let (done, others) := fed.finish
  ⟨done.tokens, notes ++ others ++ [.decoded done.tokens.length fed.halted]⟩

/-- What the pending run of a decoder means in front of rows. -/
def meaning (decoder : Decoder) (malformed : Option Text) (rows : List Run) : Decoded :=
  Stream.decoded decoder.tokens malformed (Stream.runs (decoder.pending.toList ++ rows))

/-- Closing the pending run, when no row follows any more. -/
theorem meaning_nil (decoder : Decoder) (malformed : Option Text) :
    decoder.meaning malformed [] =
      ⟨decoder.finish.1.tokens, malformed.toList.map .malformedPayload ++ decoder.finish.2 ++
        [.decoded decoder.finish.1.tokens.length malformed.isSome]⟩ := by
  obtain ⟨tokens, pending, halted⟩ := decoder
  cases pending with
  | none =>
    simp [meaning, Stream.runs, Stream.decoded, Stream.tokensOfRuns, Stream.warnings,
      Stream.isTruncated, finish]
  | some run =>
    have hruns : Stream.runs [run] = [run] := rfl
    cases hu : run.isUtf8 with
    | true =>
      simp [meaning, hruns, Stream.decoded, Stream.warnings, Stream.isTruncated, finish,
        Stream.tokens?_eq, hu]
    | false =>
      simp [meaning, hruns, Stream.decoded, Stream.warnings, Stream.isTruncated, finish,
        Stream.tokens?_eq, hu, Stream.tokensOfRuns_singleton_of_not_isUtf8 hu]

/-- What a decoder answers when a line has halted it. -/
def answer (decoder : Decoder) (notes : List Log.Record) : Decoded :=
  ⟨decoder.finish.1.tokens, notes ++ decoder.finish.2 ++
    [.decoded decoder.finish.1.tokens.length true]⟩

/-- Whether a decoder has halted does not matter when its pending run is closed. -/
theorem answer_of_halt (decoder : Decoder) (notes : List Log.Record) :
    { decoder with halted := true }.answer notes =
      ⟨decoder.finish.1.tokens, notes ++ decoder.finish.2 ++
        [.decoded decoder.finish.1.tokens.length true]⟩ := by
  obtain ⟨tokens, pending, halted⟩ := decoder
  cases pending with
  | none => rfl
  | some run => cases h : run.tokens? <;> simp [answer, finish, h]

/-- **A row either joins what is pending or halts the decoder**, and the meaning of the stream does
not change by it. -/
theorem extend_cases (decoder : Decoder) (row : Run) :
    (∃ next, decoder.extend row.kind row.bytes = (next, []) ∧ next.halted = decoder.halted ∧
        ∀ malformed rows, decoder.meaning malformed (row :: rows) = next.meaning malformed rows) ∨
      ∃ next notes, decoder.extend row.kind row.bytes = (next, notes) ∧ next.halted = true ∧
        ∀ malformed rows, decoder.meaning malformed (row :: rows) = next.answer notes := by
  obtain ⟨tokens, pending, halted⟩ := decoder
  cases pending with
  | none => exact Or.inl ⟨_, rfl, rfl, fun _ _ => rfl⟩
  | some run =>
    by_cases hk : run.kind = row.kind
    · refine Or.inl ⟨⟨tokens, some ⟨row.kind, run.bytes ++ row.bytes⟩, halted⟩, ?_, rfl, ?_⟩
      · simp [extend, hk]
      · intro malformed rows
        obtain ⟨kind, bytes⟩ := run
        obtain rfl : kind = row.kind := hk
        simp only [meaning, Option.toList_some, List.singleton_append, Stream.runs_cons]
        rw [Stream.gather_gather]
    · have hruns (rows : List Run) : Stream.runs (run :: row :: rows) =
          run :: Stream.runs (row :: rows) := Stream.gather_gather_of_ne hk _
      have hne (rows : List Run) : Stream.runs (row :: rows) ≠ [] := Stream.gather_ne_nil _ _
      cases hu : run.isUtf8 with
      | true =>
        refine Or.inl ⟨⟨tokens ++ Stream.tokensOfRuns [run], some row, halted⟩, ?_, rfl, ?_⟩
        · simp [extend, hk, Stream.tokens?_eq, hu]
        · intro malformed rows
          simp only [meaning, Option.toList_some, List.singleton_append]
          rw [hruns, Stream.decoded_cons_of_isUtf8 hu (hne rows)]
      | false =>
        refine Or.inr ⟨⟨tokens, some ⟨run.kind, []⟩, true⟩, [.invalidRun run.kind], ?_, rfl, ?_⟩
        · simp [extend, hk, Stream.tokens?_eq, hu]
        · intro malformed rows
          simp only [meaning, Option.toList_some, List.singleton_append]
          rw [hruns, Stream.decoded_cons_of_not_isUtf8 hu (hne rows)]
          simp [answer, finish, Run.tokens?]

/-- What the pending run of a decoder means in front of lines. -/
def expected (decoder : Decoder) (lines : List Text) : Decoded :=
  decoder.meaning (Stream.malformed? lines) (Stream.rows lines)

/-- **A line either goes on with what is meant or halts the decoder with it.** -/
theorem feed_cases {decoder : Decoder} (hd : decoder.halted = false) (line : Text) :
    (∃ next, decoder.feed line = (next, []) ∧ next.halted = false ∧
        ∀ lines, decoder.expected (line :: lines) = next.expected lines) ∨
      ∃ next notes, decoder.feed line = (next, notes) ∧ next.halted = true ∧
        ∀ lines, decoder.expected (line :: lines) = next.answer notes := by
  have hopen : ¬ decoder.halted = true := by simp [hd]
  rw [feed, if_neg hopen]
  cases hf : Row.fields? line with
  | none =>
    refine Or.inl ⟨decoder, rfl, hd, fun lines => ?_⟩
    rw [expected, Stream.rows_cons_of_fields?_eq_none lines hf,
      Stream.malformed?_cons_of_fields?_eq_none lines hf, expected]
  | some fields =>
    obtain ⟨name, payload⟩ := fields
    cases hw : Payload.isWellFormed payload with
    | true =>
      have hexpected (lines : List Text) : decoder.expected (line :: lines) =
          decoder.meaning (Stream.malformed? lines)
            (⟨Kind.ofLabel name, Payload.bytes payload⟩ :: Stream.rows lines) := by
        rw [expected, Stream.rows_cons_of_isWellFormed lines hf hw,
          Stream.malformed?_cons_of_isWellFormed lines hf hw]
      rcases decoder.extend_cases ⟨Kind.ofLabel name, Payload.bytes payload⟩ with
        ⟨next, hnext, hhalted, hmeaning⟩ | ⟨next, notes, hnext, hhalted, hmeaning⟩
      · refine Or.inl ⟨next, by simpa [hw] using hnext, hhalted.trans hd, fun lines => ?_⟩
        rw [hexpected, hmeaning, expected]
      · refine Or.inr ⟨next, notes, by simpa [hw] using hnext, hhalted, fun lines => ?_⟩
        rw [hexpected, hmeaning]
    | false =>
      refine Or.inr ⟨{ decoder with halted := true }, [.malformedPayload payload], by simp [hw],
        rfl, fun lines => ?_⟩
      rw [expected, Stream.rows_cons_of_not_isWellFormed lines hf hw,
        Stream.malformed?_cons_of_not_isWellFormed lines hf hw, meaning_nil, answer_of_halt]
      rfl

/-- **A decoder makes of the lines that are still to come just what they mean behind its pending
run.** -/
theorem complete_eq (lines : List Text) {decoder : Decoder} (hd : decoder.halted = false) :
    decoder.complete lines = decoder.expected lines := by
  induction lines generalizing decoder with
  | nil =>
    rw [expected, Stream.rows_nil, Stream.malformed?_nil, meaning_nil]
    simp [complete, feedAll, hd]
  | cons line lines ih =>
    rcases feed_cases hd line with
      ⟨next, hnext, hgo, hexpected⟩ | ⟨next, notes, hnext, hhalt, hexpected⟩
    · rw [hexpected, ← ih hgo]
      simp [complete, feedAll, hnext, hgo]
    · rw [hexpected]
      simp [complete, feedAll, hnext, hhalt, answer]

end Decoder

/-- **The tokens and the log of a stream are those that it means.** -/
theorem decodeLines_eq (lines : List Text) :
    decodeLines lines =
      Stream.decoded [] (Stream.malformed? lines) (Stream.runs (Stream.rows lines)) :=
  Decoder.initial.complete_eq lines rfl

theorem tokens_decodeLines_eq (lines : List Text) :
    (decodeLines lines).tokens = Stream.tokensOfRuns (Stream.runs (Stream.rows lines)) := by
  rw [decodeLines_eq, Stream.decoded, List.nil_append]

theorem payload_ne_nil_of_mem_decodeLines {lines : List Text} {token : Token}
    (h : token ∈ (decodeLines lines).tokens) : token.payload ≠ [] := by
  rw [tokens_decodeLines_eq] at h
  exact Stream.payload_ne_nil_of_mem_tokensOfRuns h

/-- **The tokens of a stream are those of its runs**: the decoder, which works line by line and may
halt at three places, computes the tokens that the stream means. -/
theorem decodeLines_tokens (lines : List Text) :
    (decodeLines lines).tokens = Stream.tokens lines := by
  rw [decodeLines_eq, Stream.decoded, Stream.tokens, List.nil_append]

end LexBridge
