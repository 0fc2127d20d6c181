import LexBridge.Proofs.Token.RoundTrip
import LexBridge.Proofs.Wire.Cut
import LexBridge.Token.Untyped

/-!
# Output that is cut short

Output may end anywhere: inside a name, between two digits, inside a character. What is decoded from
it is what would be decoded from all of it, up to some token, and of the last token there may be a
beginning only. Nothing is decoded that is not in the whole.

The rows of such output are the first rows of the whole, with a beginning of the last one. Gathering
keeps this: of the last run there is a beginning. If its bytes are UTF-8 they are a beginning of the
text, and if they are not the run is left out.

## Main definitions

* `CutShort`: some first elements of a list, of which the last may be a shorter one.
* `Run.Shorter`, `Token.Shorter`: runs and tokens of which there is a beginning.

## Main results

* `Stream.cutShort_runs`: gathering keeps what is cut short.
* `Stream.cutShort_tokensOfRuns`: so does reading.
* `Row.cutShort_rows`: the rows of output that is cut.
* `decodeOutput_of_cut`: the tokens of output that is cut.
-/

namespace LexBridge

/-! ### Lists that are cut short -/

/-- Some first elements of a list, of which the last may be a shorter one. -/
inductive CutShort {α : Type} (shorter : α → α → Prop) : List α → List α → Prop
  | nil {whole : List α} : CutShort shorter [] whole
  | last {a b : α} {whole : List α} (h : shorter a b) : CutShort shorter [a] (b :: whole)
  | cons (a : α) {part whole : List α} (h : CutShort shorter part whole) :
      CutShort shorter (a :: part) (a :: whole)

namespace CutShort

variable {α : Type} {shorter : α → α → Prop} {part whole : List α}

theorem append (h : CutShort shorter part whole) (front : List α) :
    CutShort shorter (front ++ part) (front ++ whole) := by
  induction front with
  | nil => exact h
  | cons a front ih => exact .cons a ih

/-- What is cut short is a beginning, or one up to its last element, which is a shorter one. -/
theorem prefix_or (h : CutShort shorter part whole) :
    part <+: whole ∨ ∃ before a b after,
      part = before ++ [a] ∧ whole = before ++ b :: after ∧ shorter a b := by
  induction h with
  | nil => exact Or.inl List.nil_prefix
  | last h => exact Or.inr ⟨[], _, _, _, rfl, rfl, h⟩
  | cons a _ ih =>
    rcases ih with hprefix | ⟨before, b, c, after, rfl, rfl, h⟩
    · exact Or.inl ((List.prefix_cons_inj a).mpr hprefix)
    · exact Or.inr ⟨a :: before, b, c, after, rfl, rfl, h⟩

end CutShort

/-- A run of which there are only the first bytes, or all of them. -/
structure Run.Shorter (a b : Run) : Prop where
  kind_eq : a.kind = b.kind
  bytes_isPrefix : a.bytes <+: b.bytes

theorem Run.Shorter.trans {a b c : Run} (h : a.Shorter b) (h' : b.Shorter c) : a.Shorter c :=
  ⟨h.kind_eq.trans h'.kind_eq, h.bytes_isPrefix.trans h'.bytes_isPrefix⟩

/-- A token of which there is only a beginning, which is not empty. -/
structure Token.Shorter (a b : Token) : Prop where
  kind_eq : a.kind = b.kind
  payload_ne_nil : a.payload ≠ []
  payload_isPrefix : a.payload <+: b.payload
  payload_ne : a.payload ≠ b.payload

/-! ### Runs -/

namespace Stream

/-- A row that is put in front of runs is the beginning of the first run. -/
theorem exists_gather_eq_cons (row : Run) (runs : List Run) :
    ∃ run rest, gather row runs = run :: rest ∧ row.Shorter run := by
  cases runs with
  | nil => exact ⟨row, [], rfl, rfl, List.prefix_rfl⟩
  | cons run runs =>
    rw [gather]
    split
    · rename_i hkind
      exact ⟨_, runs, rfl, hkind, List.prefix_append row.bytes run.bytes⟩
    · exact ⟨row, run :: runs, rfl, rfl, List.prefix_rfl⟩

/-- A row that is put in front of runs does not change where they are cut short. -/
theorem cutShort_gather {part whole : List Run} (h : CutShort Run.Shorter part whole) (row : Run) :
    CutShort Run.Shorter (gather row part) (gather row whole) := by
  cases h with
  | nil =>
    obtain ⟨run, rest, hgather, hshorter⟩ := exists_gather_eq_cons row whole
    rw [hgather]
    exact .last hshorter
  | @last a b rest hab =>
    by_cases hkind : row.kind = a.kind
    · rw [gather, gather, if_pos hkind, if_pos (hkind.trans hab.kind_eq)]
      exact .last ⟨hab.kind_eq, (List.prefix_append_right_inj row.bytes).mpr hab.bytes_isPrefix⟩
    · rw [gather, gather, if_neg hkind, if_neg (hab.kind_eq ▸ hkind)]
      exact .cons row (.last hab)
  | cons run h =>
    rw [gather, gather]
    split
    · exact .cons _ h
    · exact .cons row (.cons run h)

/-- **Gathering keeps what is cut short.** -/
theorem cutShort_runs {part whole : List Run} (h : CutShort Run.Shorter part whole) :
    CutShort Run.Shorter (runs part) (runs whole) := by
  induction h with
  | nil => exact .nil
  | @last a b rest hab =>
    obtain ⟨run, others, hgather, hshorter⟩ := exists_gather_eq_cons b (runs rest)
    rw [runs_cons b, hgather]
    exact .last (hab.trans hshorter)
  | cons row _ ih => exact cutShort_gather ih row

/-! ### Tokens -/

/-- The beginning of a run is a beginning of its token, or nothing. -/
theorem cutShort_tokensOfRuns_singleton {run : Run} {token : Token}
    (hwritable : Utf8.Writable token.payload) (h : run.Shorter token.run) (rest : List Token) :
    CutShort Token.Shorter (tokensOfRuns [run])
      ((token :: rest).filter fun token => token.payload ≠ []) := by
  cases hutf8 : run.isUtf8 with
  | false =>
    rw [tokensOfRuns_singleton_of_not_isUtf8 hutf8]
    exact .nil
  | true =>
    obtain ⟨first, hfirst, rfl⟩ := exists_eq_run hutf8
    have hkind : first.kind = token.kind := h.kind_eq
    have hprefix : first.payload <+: token.payload :=
      Utf8.isPrefix_of_encode hfirst hwritable h.bytes_isPrefix
    rw [tokensOfRuns_singleton_run hfirst]
    by_cases hnil : first.payload = []
    · rw [if_pos hnil]
      exact .nil
    · have hne : token.payload ≠ [] := fun htoken => hnil (List.prefix_nil.mp (htoken ▸ hprefix))
      rw [if_neg hnil, List.filter_cons_of_pos (by simpa using hne)]
      by_cases hsame : first.payload = token.payload
      · obtain rfl : first = token := by
          obtain ⟨kind, payload⟩ := first
          obtain rfl : kind = token.kind := hkind
          obtain rfl : payload = token.payload := hsame
          rfl
        exact .cons first .nil
      · exact .last ⟨hkind, hnil, hprefix, hsame⟩

/-- **Reading keeps what is cut short**, if the whole can be read. -/
theorem cutShort_tokensOfRuns {tokens : List Token} {part : List Run}
    (hwritable : ∀ token ∈ tokens, Utf8.Writable token.payload)
    (h : CutShort Run.Shorter part (tokens.map Token.run)) :
    CutShort Token.Shorter (tokensOfRuns part)
      (tokens.filter fun token => token.payload ≠ []) := by
  induction tokens generalizing part with
  | nil =>
    cases h
    exact .nil
  | cons token tokens ih =>
    obtain ⟨htoken, htokens⟩ := List.forall_mem_cons.mp hwritable
    cases h with
    | nil => exact .nil
    | last h => exact cutShort_tokensOfRuns_singleton htoken h tokens
    | @cons _ part _ h =>
      have hrest := ih htokens h
      rw [tokensOfRuns_cons, if_pos (isUtf8_run htoken), tokensOfRuns_singleton_run htoken]
      by_cases hnil : token.payload = []
      · rw [if_pos hnil, List.nil_append, List.filter_cons_of_neg (by simp [hnil])]
        exact hrest
      · rw [if_neg hnil, List.filter_cons_of_pos (by simp [hnil])]
        exact .cons token hrest

end Stream

/-! ### Rows -/

namespace Row

/-- A line that is cut has a beginning of its row, or none. -/
theorem OneLine.cutShort_rows {row : Row} (h : row.OneLine) {piece : Text}
    (hpiece : piece <+: row.line) (after : List Row) :
    CutShort Run.Shorter (Stream.rows [piece]) ((row :: after).map Row.run) := by
  rcases h.fields?_of_cut hpiece with hnone | ⟨field, hfields, hbytes⟩
  · rw [Stream.rows_cons_of_fields?_eq_none [] hnone]
    exact .nil
  cases hformed : Payload.isWellFormed field with
  | false =>
    rw [Stream.rows_cons_of_not_isWellFormed [] hfields hformed]
    exact .nil
  | true =>
    rw [Stream.rows_cons_of_isWellFormed [] hfields hformed]
    exact .last ⟨rfl, hbytes⟩

/-- **The rows of output that is cut** are the first rows, with a beginning of the last one. -/
theorem cutShort_rows {rows : List Row} (h : ∀ row ∈ rows, row.OneLine) {cut : Text}
    (hcut : cut <+: rows.flatMap fun row => row.line ++ [0x0A]) :
    CutShort Run.Shorter (Stream.rows cut.lines) (rows.map Row.run) := by
  obtain ⟨front, rest, rfl, hlines⟩ :=
    Text.lines_of_cut line (fun row hrow => (h row hrow).line_boundary) hcut
  obtain ⟨hfront, hrest⟩ := List.forall_mem_append.mp h
  rw [List.map_append]
  rcases hlines with hlines | ⟨row, after, piece, rfl, hpiece, hlines⟩
  · rw [hlines, (Stream.rows_map_line hfront).1]
    simpa using CutShort.nil.append (front.map Row.run)
  · rw [hlines, (Stream.rows_map_line_append hfront [piece]).1]
    exact ((hrest row List.mem_cons_self).cutShort_rows hpiece after).append (front.map Row.run)

end Row

/-! ### Output -/

/-- **Output that is cut anywhere never decodes to text that is not in the whole.** It can be
decoded, and its tokens are the first tokens of the whole output, except that the last one may be a
shorter one of the same kind, which is not empty. -/
theorem decodeOutput_of_cut {rows : List Row} (h : ∀ row ∈ rows, row.OneLine) {cut : Text}
    (hcut : cut <+: (Row.writeAll rows).1) :
    ∃ part whole, decodeOutputValue (.text cut) = .ok part ∧
      decodeOutputValue (.text (Row.writeAll rows).1) = .ok whole ∧
      (part.tokens <+: whole.tokens ∨
        ∃ before kind short full after, part.tokens = before ++ [⟨kind, short⟩] ∧
          whole.tokens = before ++ ⟨kind, full⟩ :: after ∧
          short ≠ [] ∧ short <+: full ∧ short ≠ full) := by
  have hwritable : ∀ row ∈ rows, Utf8.Writable row.value := fun row hrow =>
    (h row hrow).value_writable
  rw [Row.writeAll_eq hwritable] at hcut ⊢
  refine ⟨decodeOutput cut, _, rfl, rfl, ?_⟩
  have hruns : CutShort Run.Shorter (Stream.runs (Stream.rows cut.lines))
      ((Row.merged rows).map Token.run) := by
    rw [← Stream.runs_map_run]
    exact Stream.cutShort_runs (Row.cutShort_rows h hcut)
  have htokens : CutShort Token.Shorter (decodeOutput cut).tokens (Row.tokens rows) := by
    rw [decodeOutput, tokens_decodeLines_eq]
    exact Stream.cutShort_tokensOfRuns (Row.writable_payload_of_mem_merged hwritable) hruns
  rw [Row.decodeOutput_flatMap_line h]
  rcases htokens.prefix_or with hprefix | ⟨before, a, b, after, hpart, hwhole, hshorter⟩
  · exact Or.inl hprefix
  · refine Or.inr ⟨before, a.kind, a.payload, b.payload, after, hpart, ?_,
      hshorter.payload_ne_nil, hshorter.payload_isPrefix, hshorter.payload_ne⟩
    rw [hshorter.kind_eq]
    exact hwhole

theorem decodeOutput_of_cut_half :
    let rows : List Row := [⟨Text.of "Token.Text", Text.of "ab"⟩]
    let cut := Text.of "Token.Text\t'616"
    (∀ row ∈ rows, row.OneLine) ∧ cut <+: (Row.writeAll rows).1 ∧
      ∃ part, decodeOutputValue (.text cut) = .ok part ∧ part.tokens = [⟨.text, Text.of "a"⟩] := by
  intro rows cut
  have hrows : ∀ row ∈ rows, row.OneLine :=
    List.forall_mem_singleton.mpr (Row.Plain.oneLine (by decide +kernel))
  have hcut : cut <+: (Row.writeAll rows).1 := by decide +kernel
  obtain ⟨part, -, hpart, -⟩ := decodeOutput_of_cut hrows hcut
  refine ⟨hrows, hcut, part, hpart, ?_⟩
  obtain rfl := Except.ok.inj hpart
  decide +kernel

end LexBridge
