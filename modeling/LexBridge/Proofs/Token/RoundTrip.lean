import LexBridge.Proofs.Token.Stream
import LexBridge.Proofs.Wire.Row

/-!
# From rows to tokens

What the tool prints for rows is decoded into the tokens that the rows stand for. The decoder
gathers bytes and reads them at the end of a run, `Row.tokens` gathers fragments and never sees a
byte; the two agree because the bytes of fragments put together are the bytes of the whole.

## Main definitions

* `Row.run`, `Token.run`: a row and a token with the bytes of its text.
* `Row.merged`: the tokens of rows, the empty ones among them.

## Main results

* `Stream.runs_map_run`: gathering commutes with writing.
* `Row.isChain_merged`: neighbouring tokens of rows differ in kind, before the empty ones are left
  out.
* `Row.decodeOutput_flatMap_line`: tokens and log of the output for rows.
* `Row.flatMap_payload_tokens`: the tokens of rows hold the text of the rows.
-/

namespace LexBridge

/-- A row with the bytes of its fragment. -/
def Row.run (row : Row) : Run := ⟨Kind.ofLabel row.name, Utf8.encode row.value⟩

/-- A token with the bytes of its payload. -/
def Token.run (token : Token) : Run := ⟨token.kind, Utf8.encode token.payload⟩

namespace Row

/-- The tokens that rows stand for, with those that have no text. -/
def merged (rows : List Row) : List Token := rows.foldr gather []

theorem tokens_eq_filter (rows : List Row) :
    tokens rows = (merged rows).filter fun token => token.payload ≠ [] := rfl

theorem flatMap_payload_gather (row : Row) (tokens : List Token) :
    (gather row tokens).flatMap (·.payload) = row.value ++ tokens.flatMap (·.payload) := by
  cases tokens with
  | nil => simp [gather]
  | cons token tokens =>
    rw [gather]
    split <;> simp

theorem flatMap_payload_merged (rows : List Row) :
    (merged rows).flatMap (·.payload) = rows.flatMap (·.value) := by
  induction rows with
  | nil => rfl
  | cons row rows ih =>
    rw [merged, List.foldr_cons, flatMap_payload_gather, List.flatMap_cons, ← ih, merged]

/-- **The tokens of rows hold the text of the rows**, nothing more and nothing less. -/
theorem flatMap_payload_tokens (rows : List Row) :
    (tokens rows).flatMap (·.payload) = rows.flatMap (·.value) := by
  rw [← flatMap_payload_merged, tokens_eq_filter]
  induction merged rows with
  | nil => rfl
  | cons token tokens ih =>
    by_cases h : token.payload = []
    · rw [List.filter_cons_of_neg (by simp [h]), ih, List.flatMap_cons, h, List.nil_append]
    · rw [List.filter_cons_of_pos (by simp [h]), List.flatMap_cons, ih, List.flatMap_cons]

theorem payload_ne_nil_of_mem_tokens {rows : List Row} {token : Token} (h : token ∈ tokens rows) :
    token.payload ≠ [] := by
  simpa using (List.mem_filter.mp h).2

/-- Tokens of rows that can be written can be written. -/
theorem writable_payload_of_mem_merged {rows : List Row}
    (h : ∀ row ∈ rows, Utf8.Writable row.value) :
    ∀ token ∈ merged rows, Utf8.Writable token.payload := by
  intro token htoken c hc
  have hmem : c ∈ rows.flatMap (·.value) := by
    rw [← flatMap_payload_merged]
    exact List.mem_flatMap.mpr ⟨token, htoken, hc⟩
  obtain ⟨row, hrow, hvalue⟩ := List.mem_flatMap.mp hmem
  exact h row hrow c hvalue

end Row

namespace Stream

/-! ### Runs of written rows -/

theorem gather_run (row : Row) (tokens : List Token) :
    gather row.run (tokens.map Token.run) = (Row.gather row tokens).map Token.run := by
  cases tokens with
  | nil => rfl
  | cons token tokens =>
    by_cases h : Kind.ofLabel row.name = token.kind <;>
      simp [gather, Row.gather, Row.run, Token.run, h]

/-- **Gathering commutes with writing**: the runs of written rows are the written tokens. -/
theorem runs_map_run (rows : List Row) :
    runs (rows.map Row.run) = (Row.merged rows).map Token.run := by
  induction rows with
  | nil => rfl
  | cons row rows ih =>
    rw [List.map_cons, runs_cons, ih, gather_run, Row.merged, Row.merged, List.foldr_cons]

theorem isUtf8_run {token : Token} (h : Utf8.Writable token.payload) : token.run.isUtf8 = true := by
  simp [Run.isUtf8, Token.run, Utf8.decode?_encode h]

/-- A run that is UTF-8 is that of a token. -/
theorem exists_eq_run {run : Run} (h : run.isUtf8 = true) :
    ∃ token : Token, Utf8.Writable token.payload ∧ run = token.run := by
  obtain ⟨payload, hdecode⟩ := Option.isSome_iff_exists.mp h
  obtain ⟨hwritable, hbytes⟩ := Utf8.decode?_eq_some_iff.mp hdecode
  exact ⟨⟨run.kind, payload⟩, hwritable, by rw [Token.run, hbytes]⟩

theorem tokensOfRuns_singleton_run {token : Token} (h : Utf8.Writable token.payload) :
    tokensOfRuns [token.run] = if token.payload = [] then [] else [token] := by
  have htoken : token.run.token? = some token := by
    simp [Run.token?, Token.run, Utf8.decode?_encode h]
  have hbytes : token.run.bytes = [] ↔ token.payload = [] := Utf8.encode_eq_nil_iff
  rw [tokensOfRuns, List.takeWhile_cons_of_pos (isUtf8_run h), List.takeWhile_nil]
  by_cases hp : token.payload = []
  · rw [List.filter_cons_of_neg (by simp [hbytes, hp]), if_pos hp]
    rfl
  · rw [List.filter_cons_of_pos (by simp [hbytes, hp]), if_neg hp, List.filter_nil,
      List.filterMap_cons_some htoken, List.filterMap_nil]

theorem tokensOfRuns_map_run {tokens : List Token}
    (h : ∀ token ∈ tokens, Utf8.Writable token.payload) :
    tokensOfRuns (tokens.map Token.run) = tokens.filter fun token => token.payload ≠ [] := by
  induction tokens with
  | nil => rfl
  | cons token tokens ih =>
    obtain ⟨htoken, htokens⟩ := List.forall_mem_cons.mp h
    rw [List.map_cons, tokensOfRuns_cons, if_pos (isUtf8_run htoken), ih htokens,
      tokensOfRuns_singleton_run htoken]
    by_cases hp : token.payload = []
    · rw [if_pos hp, List.filter_cons_of_neg (by simp [hp]), List.nil_append]
    · rw [if_neg hp, List.filter_cons_of_pos (by simp [hp]), List.singleton_append]

/-- Nothing is to be said about runs that are all UTF-8. -/
theorem decoded_of_forall_isUtf8 {runs : List Run} (h : ∀ run ∈ runs, run.isUtf8 = true)
    (before : List Token) :
    decoded before none runs =
      ⟨before ++ tokensOfRuns runs, [.decoded (before ++ tokensOfRuns runs).length false]⟩ := by
  have hall : runs.dropLast.all Run.isUtf8 = true :=
    List.all_eq_true.mpr fun run hrun => h run (List.dropLast_subset _ hrun)
  have hfind : (runs.find? fun run => !run.isUtf8) = none :=
    List.find?_eq_none.mpr fun run hrun => by simp [h run hrun]
  simp [decoded, warnings, isTruncated, hall, hfind]

/-! ### Lines of written rows -/

/-- The lines of rows are read as these rows, whatever follows them. -/
theorem rows_map_line_append {rows : List Row} (h : ∀ row ∈ rows, row.OneLine)
    (lines : List Text) :
    Stream.rows (rows.map Row.line ++ lines) = rows.map Row.run ++ Stream.rows lines ∧
      malformed? (rows.map Row.line ++ lines) = malformed? lines := by
  induction rows with
  | nil => exact ⟨rfl, rfl⟩
  | cons row rows ih =>
    obtain ⟨hrow, hrows⟩ := List.forall_mem_cons.mp h
    have hfields := hrow.fields?_line
    have hw := Payload.isWellFormed_ofBytes (Utf8.encode row.value)
    rw [List.map_cons, List.cons_append, rows_cons_of_isWellFormed _ hfields hw,
      malformed?_cons_of_isWellFormed _ hfields hw, Payload.bytes_ofBytes, (ih hrows).1]
    exact ⟨rfl, (ih hrows).2⟩

theorem rows_map_line {rows : List Row} (h : ∀ row ∈ rows, row.OneLine) :
    Stream.rows (rows.map Row.line) = rows.map Row.run ∧
      malformed? (rows.map Row.line) = none := by
  simpa [rows_nil, malformed?_nil] using rows_map_line_append h []

end Stream

/-- **Merged tokens are as long as they can be**: neighbours differ in kind. -/
theorem Row.isChain_merged (rows : List Row) :
    (Row.merged rows).IsChain fun a b => a.kind ≠ b.kind := by
  have hruns := Stream.isChain_runs (rows.map Row.run)
  rw [Stream.runs_map_run, List.isChain_map] at hruns
  exact hruns

/-- **The output for rows is decoded into the tokens of the rows**, without a warning. -/
theorem Row.decodeOutput_flatMap_line {rows : List Row} (h : ∀ row ∈ rows, row.OneLine) :
    decodeOutput (rows.flatMap fun row => row.line ++ [0x0A]) =
      ⟨tokens rows, [.decoded (tokens rows).length false]⟩ := by
  have hwritable := writable_payload_of_mem_merged fun row hrow => (h row hrow).value_writable
  obtain ⟨hrows, hmalformed⟩ := Stream.rows_map_line h
  have hutf8 : ∀ run ∈ (merged rows).map Token.run, run.isUtf8 = true := by
    intro run hrun
    obtain ⟨token, htoken, rfl⟩ := List.mem_map.mp hrun
    exact Stream.isUtf8_run (hwritable token htoken)
  rw [decodeOutput, lines_flatMap_line h, decodeLines_eq, hrows, hmalformed, Stream.runs_map_run,
    Stream.decoded_of_forall_isUtf8 hutf8, Stream.tokensOfRuns_map_run hwritable, List.nil_append]
  rfl

end LexBridge
