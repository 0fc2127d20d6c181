import LexBridge.Proofs.Token.RoundTrip

/-!
# Streams that go on

Lines that come later can do three things to what earlier lines mean. They may begin runs of their
own, which leaves the tokens of the earlier lines as they are. They may go on with the last run, so
that its token gets longer. Or they may make the last run one that is not UTF-8, and then its token
is gone, and with it everything behind it. A stream that has been halted does not go on.

All of this is about the last run alone: the runs of the whole are those of the earlier lines, with
the last one put in front of the runs of the later lines.

## Main definitions

* `Stream.continuation`: the bytes with which rows go on with a run.

## Main results

* `Stream.exists_runs_append`: the runs of rows behind rows.
* `Decoder.halted_feedAll`: which lines halt the decoder.
* `decodeLines_append_of_halted`: what follows a halt does not count.
* `decodeLines_append_cases`, `decodeLines_append`: the tokens of lines behind lines.
-/

namespace LexBridge

namespace Stream

/-! ### Runs -/

/-- The bytes with which rows go on with a run of a kind: those of the first rows, as long as they
have that kind. -/
def continuation (kind : Kind) (rows : List Run) : List UInt8 :=
  (rows.takeWhile fun row => row.kind = kind).flatMap (·.bytes)

/-- A run takes the rows that go on with it, and leaves the others to the runs behind it. -/
theorem gather_runs (row : Run) (rows : List Run) :
    ∃ others, gather row (runs rows) =
      ⟨row.kind, row.bytes ++ continuation row.kind rows⟩ :: others := by
  induction rows generalizing row with
  | nil => exact ⟨[], by simp [runs, gather, continuation]⟩
  | cons next rows ih =>
    obtain ⟨kind, bytes⟩ := next
    rw [runs_cons]
    by_cases hkind : kind = row.kind
    · subst hkind
      obtain ⟨others, hothers⟩ := ih ⟨row.kind, row.bytes ++ bytes⟩
      refine ⟨others, ?_⟩
      rw [gather_gather, hothers]
      simp [continuation]
    · refine ⟨gather ⟨kind, bytes⟩ (runs rows), ?_⟩
      rw [gather_gather_of_ne (Ne.symm hkind)]
      simp [continuation, hkind]

/-- A row that is put in front of runs does not change what stands behind them. -/
theorem gather_append (row : Run) {runs : List Run} (h : runs ≠ []) (rest : List Run) :
    gather row (runs ++ rest) = gather row runs ++ rest := by
  obtain ⟨run, others, rfl⟩ := List.exists_cons_of_ne_nil h
  rw [List.cons_append, gather, gather]
  split <;> rfl

/-- **The runs of rows behind rows**: the last run is put in front of the runs that follow. -/
theorem exists_runs_append {front : List Run} (h : front ≠ []) :
    ∃ before last, runs front = before ++ [last] ∧
      ∀ back, runs (front ++ back) = before ++ gather last (runs back) := by
  induction front with
  | nil => exact absurd rfl h
  | cons row front ih =>
    by_cases hfront : front = []
    · subst hfront
      exact ⟨[], row, rfl, fun _ => rfl⟩
    obtain ⟨before, last, hruns, happend⟩ := ih hfront
    simp only [List.cons_append, runs_cons, hruns, happend]
    by_cases hbefore : before = []
    · -- there is one run so far, and the row may belong to it
      subst hbefore
      obtain ⟨kind, bytes⟩ := row
      by_cases hkind : kind = last.kind
      · subst hkind
        exact ⟨[], ⟨last.kind, bytes ++ last.bytes⟩, by simp [gather],
          fun back => gather_gather last.kind bytes last.bytes (runs back)⟩
      · exact ⟨[⟨kind, bytes⟩], last, by simp [gather, hkind],
          fun back => gather_gather_of_ne hkind (runs back)⟩
    · exact ⟨gather row before, last, gather_append row hbefore [last],
        fun back => gather_append row hbefore _⟩

/-- Reading goes on behind runs that are all UTF-8. -/
theorem tokensOfRuns_append (before after : List Run) :
    tokensOfRuns (before ++ after) =
      if before.all Run.isUtf8 then tokensOfRuns before ++ tokensOfRuns after
      else tokensOfRuns before := by
  induction before with
  | nil => rfl
  | cons run before ih =>
    rw [List.cons_append, tokensOfRuns_cons, tokensOfRuns_cons run before, ih, List.all_cons]
    cases run.isUtf8 <;> cases before.all Run.isUtf8 <;> simp

/-! ### Lines -/

/-- Without a malformed payload, the rows of later lines stand behind those of earlier ones. -/
theorem rows_append {front : List Text} (h : malformed? front = none) (back : List Text) :
    rows (front ++ back) = rows front ++ rows back := by
  rw [rows_of_malformed?_eq_none h, rows, fields_append,
    List.takeWhile_append_of_pos (forall_isWellFormed_of_malformed?_eq_none h), List.map_append,
    rows]

end Stream

namespace Decoder

theorem feedAll_of_halted {decoder : Decoder} (h : decoder.halted = true) (lines : List Text) :
    decoder.feedAll lines = (decoder, []) := by
  cases lines with
  | nil => rfl
  | cons line lines => simp [feedAll, feed, h]

/-- **Feeding stops at the line that halts the decoder.** -/
theorem feedAll_append_of_halted {decoder : Decoder} {front : List Text}
    (h : (decoder.feedAll front).1.halted = true) (back : List Text) :
    decoder.feedAll (front ++ back) = decoder.feedAll front := by
  induction front generalizing decoder with
  | nil => exact feedAll_of_halted h back
  | cons line front ih =>
    rw [List.cons_append, feedAll, feedAll]
    rw [feedAll] at h
    dsimp only at h ⊢
    split
    · rfl
    · rename_i hopen
      rw [if_neg hopen] at h
      rw [ih h]

/-- **The lines that halt the decoder** are those of a stream that is cut short. -/
theorem halted_feedAll (lines : List Text) :
    (initial.feedAll lines).1.halted =
      Stream.isTruncated (Stream.malformed? lines) (Stream.runs (Stream.rows lines)) := by
  have hlog := congrArg (·.log.getLast?) (decodeLines_eq lines)
  simp only [decodeLines, Stream.decoded, List.getLast?_concat, Option.some.injEq,
    Log.Record.decoded.injEq] at hlog
  exact hlog.2

end Decoder

/-- **What follows a halt does not count.** -/
theorem decodeLines_append_of_halted {front : List Text}
    (h : (Decoder.initial.feedAll front).1.halted = true) (back : List Text) :
    decodeLines (front ++ back) = decodeLines front := by
  rw [decodeLines, decodeLines, Decoder.feedAll_append_of_halted h]

/-! ### Tokens -/

namespace Stream

/-- A run has no token, or is that of its token. -/
theorem tokensOfRuns_singleton_cases (run : Run) :
    tokensOfRuns [run] = [] ∨ ∃ token : Token, Utf8.Writable token.payload ∧
      token.payload ≠ [] ∧ run = token.run ∧ tokensOfRuns [run] = [token] := by
  cases hutf8 : run.isUtf8 with
  | false => exact Or.inl (tokensOfRuns_singleton_of_not_isUtf8 hutf8)
  | true =>
    obtain ⟨token, hwritable, rfl⟩ := exists_eq_run hutf8
    rw [tokensOfRuns_singleton_run hwritable]
    by_cases hnil : token.payload = []
    · exact Or.inl (if_pos hnil)
    · exact Or.inr ⟨token, hwritable, hnil, rfl, if_neg hnil⟩

/-- **What rows make of a token that stands before them**: it gets longer, or is gone with all that
stands behind it if the bytes of its run are not UTF-8 any more. -/
theorem tokensOfRuns_gather_run {token : Token} (hwritable : Utf8.Writable token.payload)
    (hnil : token.payload ≠ []) (rows : List Run) :
    (∃ longer rest, tokensOfRuns (gather token.run (runs rows)) = longer :: rest ∧
        longer.kind = token.kind ∧ token.payload <+: longer.payload) ∨
      (tokensOfRuns (gather token.run (runs rows)) = [] ∧
        Utf8.decode? (Utf8.encode token.payload ++ continuation token.kind rows) = none) := by
  obtain ⟨others, hgather⟩ := gather_runs token.run rows
  rw [hgather, tokensOfRuns_cons]
  cases hutf8 : Run.isUtf8
      ⟨token.run.kind, token.run.bytes ++ continuation token.run.kind rows⟩ with
  | false =>
    exact Or.inr ⟨if_neg Bool.false_ne_true, by simpa [Run.isUtf8, Token.run] using hutf8⟩
  | true =>
    obtain ⟨longer, hlonger, hrun⟩ := exists_eq_run hutf8
    have hkind : token.kind = longer.kind := congrArg Run.kind hrun
    have hbytes : Utf8.encode token.payload ++ continuation token.kind rows =
        Utf8.encode longer.payload := congrArg Run.bytes hrun
    have hpayload : token.payload <+: longer.payload :=
      Utf8.isPrefix_of_encode hwritable hlonger ⟨_, hbytes⟩
    have hne : longer.payload ≠ [] := fun h => hnil (List.prefix_nil.mp (h ▸ hpayload))
    rw [if_pos rfl, hrun, tokensOfRuns_singleton_run hlonger, if_neg hne]
    exact Or.inl ⟨longer, tokensOfRuns others, rfl, hkind.symm, hpayload⟩

end Stream

/-- **All tokens of earlier lines stay, or all but the one of the last run**, which the rows of the
later lines then go on with. -/
theorem decodeLines_append_cases (front back : List Text) :
    (decodeLines front).tokens <+: (decodeLines (front ++ back)).tokens ∨
      ∃ init token, Utf8.Writable token.payload ∧ token.payload ≠ [] ∧
        (Stream.runs (Stream.rows front)).getLast? = some token.run ∧
        (decodeLines front).tokens = init ++ [token] ∧
        (decodeLines (front ++ back)).tokens =
          init ++
            Stream.tokensOfRuns (Stream.gather token.run (Stream.runs (Stream.rows back))) := by
  by_cases hhalted : (Decoder.initial.feedAll front).1.halted = true
  · rw [decodeLines_append_of_halted hhalted]
    exact Or.inl List.prefix_rfl
  obtain ⟨hmalformed, hutf8⟩ : Stream.malformed? front = none ∧
      (Stream.runs (Stream.rows front)).dropLast.all Run.isUtf8 = true := by
    simpa [Decoder.halted_feedAll, Stream.isTruncated] using hhalted
  rw [tokens_decodeLines_eq, tokens_decodeLines_eq, Stream.rows_append hmalformed]
  by_cases hrows : Stream.rows front = []
  · rw [hrows]
    exact Or.inl List.nil_prefix
  obtain ⟨before, last, hruns, happend⟩ := Stream.exists_runs_append hrows
  rw [hruns, List.dropLast_concat] at hutf8
  rw [hruns, happend, Stream.tokensOfRuns_append, Stream.tokensOfRuns_append, if_pos hutf8,
    if_pos hutf8]
  rcases Stream.tokensOfRuns_singleton_cases last with hnone | ⟨token, hwritable, hnil, rfl, htoken⟩
  · rw [hnone, List.append_nil]
    exact Or.inl (List.prefix_append _ _)
  · exact Or.inr ⟨Stream.tokensOfRuns before, token, hwritable, hnil, List.getLast?_concat,
      by rw [htoken], rfl⟩

/-- **Lines that come later change the last token at most.** All tokens before it stay. The last one
stays or gets longer, unless the later lines go on with its run so that the bytes of that are no
UTF-8; then the token is gone, and no token follows. Behind a halt there is no change at all. -/
theorem decodeLines_append (front back : List Text) :
    ((decodeLines front).tokens = [] ∨
      ∃ init token, (decodeLines front).tokens = init ++ [token] ∧
        ((∃ longer rest, (decodeLines (front ++ back)).tokens = init ++ longer :: rest ∧
            longer.kind = token.kind ∧ token.payload <+: longer.payload) ∨
          ((decodeLines (front ++ back)).tokens = init ∧
            (Stream.runs (Stream.rows front)).getLast? = some token.run ∧
            Utf8.decode? (Utf8.encode token.payload ++
              Stream.continuation token.kind (Stream.rows back)) = none))) ∧
      ((Decoder.initial.feedAll front).1.halted = true →
        decodeLines (front ++ back) = decodeLines front) := by
  refine ⟨?_, fun hhalted => decodeLines_append_of_halted hhalted back⟩
  rcases decodeLines_append_cases front back with
    ⟨rest, hrest⟩ | ⟨init, token, hwritable, hnil, hlast, hfront, hwhole⟩
  · rcases List.eq_nil_or_concat (decodeLines front).tokens with hfront | ⟨init, token, hfront⟩
    · exact Or.inl hfront
    · rw [List.concat_eq_append] at hfront
      rw [hfront, List.append_assoc] at hrest
      exact Or.inr ⟨init, token, hfront,
        Or.inl ⟨token, rest, hrest.symm, rfl, List.prefix_rfl⟩⟩
  · refine Or.inr ⟨init, token, hfront, ?_⟩
    rcases Stream.tokensOfRuns_gather_run hwritable hnil (Stream.rows back) with
      ⟨longer, rest, htokens, hkind, hpayload⟩ | ⟨htokens, hbytes⟩
    · exact Or.inl ⟨longer, rest, by rw [hwhole, htokens], hkind, hpayload⟩
    · exact Or.inr ⟨by rw [hwhole, htokens, List.append_nil], hlast, hbytes⟩

example : (decodeLines [Text.of "Token.Text\t'61'"]).tokens = [⟨.text, Text.of "a"⟩] ∧
    (decodeLines [Text.of "Token.Text\t'61'", Text.of "Token.Text\t'ff'"]).tokens = [] := by
  decide +kernel

theorem decodeLines_append_halted :
    let front := [Text.of "Token.Text\t'61'", Text.of "Token.Text\t'6'"]
    let back := [Text.of "Token.Text\t'ff'"]
    (Decoder.initial.feedAll front).1.halted = true ∧
      (decodeLines (front ++ back)).tokens = [⟨.text, Text.of "a"⟩] := by
  intro front back
  have hhalted : (Decoder.initial.feedAll front).1.halted = true := by decide +kernel
  refine ⟨hhalted, ?_⟩
  rw [(decodeLines_append front back).2 hhalted]
  decide +kernel

end LexBridge
