import LexBridge.Proofs.Token.Extension
import LexBridge.Proofs.Token.Warnings

/-!
# Neighbouring tokens

Neighbouring runs differ in kind, but neighbouring tokens need not. A run without bytes has no
token, and so the tokens on both sides of it come to stand next to each other; these may be of one
kind. That is the only way. If two neighbouring tokens have the same kind, there is a row of another
kind among the lines between those that they are built from, and none of the rows there has any
bytes.

Runs are said of rows, and rows of lines, so the argument goes back step by step. Tokens that follow
each other come from runs with nothing but empty runs between them. Rows can be cut wherever their
runs can, and lines wherever their rows can. So the lines are cut before and behind the two runs,
and what is known of the runs in between is known of the lines there.

## Main definitions

* `Token.BuiltFrom`: the lines that a token is built from.
* `Token.Apart`: lines in which a token follows another one, divided.

## Main results

* `Stream.exists_append_of_tokensOfRuns`: a token among others comes from a run among others.
* `Stream.exists_append_of_runs`, `Stream.exists_append_of_rows`: cutting rows and lines.
* `exists_apart`: what there is between neighbouring tokens.
* `decodeLines_neighbours`: when they have the same kind.
-/

namespace LexBridge

namespace Stream

/-! ### From tokens to runs -/

/-- **A token among others comes from a run among others**, and the tokens before it and behind it
from the runs before that one and behind it. -/
theorem exists_append_of_tokensOfRuns {runs : List Run} {before after : List Token} {token : Token}
    (h : tokensOfRuns runs = before ++ token :: after) :
    ∃ front back, runs = front ++ [token.run] ++ back ∧
      (front ++ [token.run]).all Run.isUtf8 = true ∧ tokensOfRuns front = before ∧
      tokensOfRuns (front ++ [token.run]) = before ++ [token] ∧ tokensOfRuns back = after := by
  induction runs generalizing before with
  | nil => exact absurd h.symm (List.append_ne_nil_of_right_ne_nil _ (List.cons_ne_nil _ _))
  | cons run runs ih =>
    rw [tokensOfRuns_cons] at h
    cases hutf8 : run.isUtf8 with
    | false =>
      rw [hutf8, if_neg Bool.false_ne_true] at h
      exact absurd h.symm (List.append_ne_nil_of_right_ne_nil _ (List.cons_ne_nil _ _))
    | true =>
      rw [if_pos hutf8] at h
      have hcons (others : List Run) :
          tokensOfRuns (run :: others) = tokensOfRuns [run] ++ tokensOfRuns others := by
        rw [tokensOfRuns_cons, if_pos hutf8]
      have hall {others : List Run} (hothers : others.all Run.isUtf8 = true) :
          (run :: others).all Run.isUtf8 = true := by
        rw [List.all_cons, hutf8, hothers, Bool.and_true]
      rcases tokensOfRuns_singleton_cases run with hnone | ⟨first, -, -, rfl, hfirst⟩
      · -- a run without bytes stands among those before the token
        rw [hnone, List.nil_append] at h
        obtain ⟨front, back, rfl, hfront, hbefore, htoken, hafter⟩ := ih h
        refine ⟨run :: front, back, rfl, hall hfront, ?_, ?_, hafter⟩
        · rw [hcons, hnone, hbefore, List.nil_append]
        · rw [List.cons_append, hcons, hnone, htoken, List.nil_append]
      · rw [hfirst, List.singleton_append] at h
        cases before with
        | nil =>
          obtain ⟨rfl, hafter⟩ := List.cons.inj h
          exact ⟨[], runs, rfl, hall rfl, rfl, hfirst, hafter⟩
        | cons head before =>
          obtain ⟨rfl, hrest⟩ := List.cons.inj h
          obtain ⟨front, back, rfl, hfront, hbefore, htoken, hafter⟩ := ih hrest
          refine ⟨first.run :: front, back, rfl, hall hfront, ?_, ?_, hafter⟩
          · rw [hcons, hfirst, hbefore, List.singleton_append]
          · rw [List.cons_append, hcons, hfirst, htoken, List.singleton_append, List.cons_append]

/-- Runs that are all UTF-8 and have no tokens have no bytes. -/
theorem flatMap_bytes_of_tokensOfRuns_eq_nil {runs : List Run} (hutf8 : runs.all Run.isUtf8 = true)
    (h : tokensOfRuns runs = []) : runs.flatMap (·.bytes) = [] := by
  rw [← flatMap_encode_tokensOfRuns (List.all_eq_true.mp hutf8), h, List.flatMap_nil]

/-- Between two runs of one kind there is a run of another kind. -/
theorem exists_ne_kind_of_isChain {front between back : List Run} {a b : Run}
    (h : (front ++ [a] ++ between ++ [b] ++ back).IsChain fun a b => a.kind ≠ b.kind)
    (hkind : a.kind = b.kind) : ∃ run ∈ between, run.kind ≠ a.kind := by
  cases between with
  | nil =>
    have hpair : (front ++ a :: b :: back).IsChain fun a b => a.kind ≠ b.kind := by simpa using h
    exact absurd hkind (List.isChain_iff_forall_rel_of_append_cons_cons.mp hpair rfl)
  | cons next between =>
    have hpair : (front ++ a :: next :: (between ++ [b] ++ back)).IsChain
        fun a b => a.kind ≠ b.kind := by simpa using h
    exact ⟨next, List.mem_cons_self,
      Ne.symm (List.isChain_iff_forall_rel_of_append_cons_cons.mp hpair rfl)⟩

/-! ### From runs to rows -/

/-- A row in front of runs goes into the first part of them, wherever they are cut behind it. -/
theorem exists_append_of_gather {row run : Run} {runs front back : List Run}
    (h : gather row runs = run :: (front ++ back)) :
    ∃ inner, runs = inner ++ back ∧ gather row inner = run :: front := by
  cases runs with
  | nil =>
    obtain ⟨rfl, hnil⟩ := List.cons.inj h
    obtain ⟨rfl, rfl⟩ := List.append_eq_nil_iff.mp hnil.symm
    exact ⟨[], rfl, rfl⟩
  | cons next others =>
    rw [gather] at h
    split at h
    case isTrue hkind =>
      obtain ⟨rfl, rfl⟩ := List.cons.inj h
      exact ⟨next :: front, rfl, by rw [gather, if_pos hkind]⟩
    case isFalse hkind =>
      obtain ⟨rfl, hcut⟩ := List.cons.inj h
      refine ⟨front, hcut, ?_⟩
      cases front with
      | nil => rfl
      | cons first front =>
        obtain ⟨rfl, -⟩ := List.cons.inj hcut
        rw [gather, if_neg hkind]

/-- **Rows can be cut wherever their runs can.** -/
theorem exists_append_of_runs {rows front back : List Run} (h : runs rows = front ++ back) :
    ∃ before after, rows = before ++ after ∧ runs before = front ∧ runs after = back := by
  induction rows generalizing front with
  | nil =>
    obtain ⟨rfl, rfl⟩ := List.append_eq_nil_iff.mp h.symm
    exact ⟨[], [], rfl, rfl, rfl⟩
  | cons row rows ih =>
    cases front with
    | nil => exact ⟨[], row :: rows, rfl, rfl, h⟩
    | cons run front =>
      obtain ⟨inner, hinner, hgather⟩ := exists_append_of_gather h
      obtain ⟨before, after, rfl, rfl, hafter⟩ := ih hinner
      exact ⟨row :: before, after, rfl, hgather, hafter⟩

/-- Rows and their runs are of the same kinds. -/
theorem map_kind_gather (row : Run) (runs : List Run) (kind : Kind) :
    kind ∈ (gather row runs).map (·.kind) ↔ kind = row.kind ∨ kind ∈ runs.map (·.kind) := by
  cases runs with
  | nil => simp [gather]
  | cons run runs =>
    rw [gather]
    split <;> simp_all

theorem mem_map_kind_runs (rows : List Run) (kind : Kind) :
    kind ∈ (runs rows).map (·.kind) ↔ kind ∈ rows.map (·.kind) := by
  induction rows with
  | nil => rfl
  | cons row rows ih => rw [runs_cons, map_kind_gather, ih, List.map_cons, List.mem_cons]

/-! ### From rows to lines -/

theorem malformed?_append (front back : List Text) :
    malformed? (front ++ back) = (malformed? front).or (malformed? back) := by
  rw [malformed?, fields_append, List.find?_append, Option.map_or, malformed?, malformed?]

/-- **Lines can be cut wherever their rows can**, and then there is no malformed payload before the
cut. -/
theorem exists_append_of_rows {lines : List Text} {front back : List Run}
    (h : rows lines = front ++ back) :
    ∃ before after, lines = before ++ after ∧ malformed? before = none ∧ rows before = front ∧
      rows after = back := by
  induction lines generalizing front with
  | nil =>
    obtain ⟨rfl, rfl⟩ := List.append_eq_nil_iff.mp h.symm
    exact ⟨[], [], rfl, rfl, rfl, rfl⟩
  | cons line lines ih =>
    cases front with
    | nil => exact ⟨[], line :: lines, rfl, rfl, rfl, h⟩
    | cons row front =>
      cases hfields : Row.fields? line with
      | none =>
        rw [rows_cons_of_fields?_eq_none lines hfields] at h
        obtain ⟨before, after, rfl, hmalformed, hbefore, hafter⟩ := ih h
        refine ⟨line :: before, after, rfl, ?_, ?_, hafter⟩
        · rw [malformed?_cons_of_fields?_eq_none before hfields, hmalformed]
        · rw [rows_cons_of_fields?_eq_none before hfields, hbefore]
      | some fields =>
        obtain ⟨name, payload⟩ := fields
        cases hpayload : Payload.isWellFormed payload with
        | true =>
          rw [rows_cons_of_isWellFormed lines hfields hpayload] at h
          obtain ⟨hrow, hfront⟩ := List.cons.inj h
          obtain ⟨before, after, rfl, hmalformed, hbefore, hafter⟩ := ih hfront
          refine ⟨line :: before, after, rfl, ?_, ?_, hafter⟩
          · rw [malformed?_cons_of_isWellFormed before hfields hpayload, hmalformed]
          · rw [rows_cons_of_isWellFormed before hfields hpayload, hbefore, hrow]
        | false =>
          rw [rows_cons_of_not_isWellFormed lines hfields hpayload] at h
          cases h

/-- **Lines can be cut wherever their runs can.** -/
theorem exists_append_of_runs_rows {lines : List Text} {front back : List Run}
    (h : runs (rows lines) = front ++ back) :
    ∃ before after, lines = before ++ after ∧ malformed? before = none ∧
      runs (rows before) = front ∧ runs (rows after) = back := by
  obtain ⟨frontRows, backRows, hrows, hfront, hback⟩ := exists_append_of_runs h
  obtain ⟨before, after, hlines, hmalformed, rfl, rfl⟩ := exists_append_of_rows hrows
  exact ⟨before, after, hlines, hmalformed, hfront, hback⟩

section Fields

variable {lines : List Text} (h : malformed? lines = none)
include h

/-- Without a malformed payload, the two-field lines are of the kinds of the runs. -/
theorem mem_map_kind_fields (kind : Kind) :
    kind ∈ (fields lines).map (fun field => Kind.ofLabel field.1) ↔
      kind ∈ (runs (rows lines)).map (·.kind) := by
  rw [mem_map_kind_runs, rows_of_malformed?_eq_none h, List.map_map]
  rfl

/-- Without a malformed payload, the two-field lines have the bytes of the runs. -/
theorem flatMap_bytes_fields :
    ((fields lines).flatMap fun field => Payload.bytes field.2) =
      (runs (rows lines)).flatMap (·.bytes) := by
  rw [flatMap_bytes_runs, flatMap_bytes_rows h]

end Fields

end Stream

/-! ### Neighbours -/

/-- The lines that a token is built from: the two-field lines among them are of its kind, and their
bytes put together write its payload. -/
structure Token.BuiltFrom (token : Token) (lines : List Text) : Prop where
  kind_eq : ∀ field ∈ Stream.fields lines, Kind.ofLabel field.1 = token.kind
  bytes_eq : ((Stream.fields lines).flatMap fun field => Payload.bytes field.2) =
    Utf8.encode token.payload

theorem Token.builtFrom_of_runs {token : Token} {lines : List Text}
    (hmalformed : Stream.malformed? lines = none)
    (hruns : Stream.runs (Stream.rows lines) = [token.run]) : token.BuiltFrom lines where
  kind_eq field hfield := by
    have hkind := (Stream.mem_map_kind_fields hmalformed _).mp (List.mem_map_of_mem hfield)
    rw [hruns, List.map_singleton, List.mem_singleton] at hkind
    exact hkind
  bytes_eq := by
    rw [Stream.flatMap_bytes_fields hmalformed, hruns, List.flatMap_singleton, Token.run]

/-- Lines in which the token `b` follows the token `a`, divided: those before, those that `a` is
built from, those in between, and those that `b` is built from. What the decoder makes of the lines
up to each of the cuts tells that these are the right ones. -/
structure Token.Apart (before : List Token) (a b : Token) (front first between second : List Text) :
    Prop where
  tokens_front : (decodeLines front).tokens = before
  tokens_first : (decodeLines (front ++ first)).tokens = before ++ [a]
  tokens_between : (decodeLines (front ++ first ++ between)).tokens = before ++ [a]
  tokens_second : (decodeLines (front ++ first ++ between ++ second)).tokens = before ++ [a, b]
  first_built : a.BuiltFrom first
  second_built : b.BuiltFrom second
  between_empty : ∀ field ∈ Stream.fields between, Payload.bytes field.2 = []
  between_other : a.kind = b.kind →
    ∃ field ∈ Stream.fields between, Kind.ofLabel field.1 ≠ a.kind

/-- **Between neighbouring tokens, no two-field line has any bytes.** If the tokens are of the same
kind, there is a line of another kind. -/
theorem exists_apart {lines : List Text} {before after : List Token} {a b : Token}
    (h : (decodeLines lines).tokens = before ++ a :: b :: after) :
    ∃ front first between second back,
      lines = front ++ first ++ between ++ second ++ back ∧
        Token.Apart before a b front first between second := by
  rw [tokens_decodeLines_eq] at h
  obtain ⟨runsFront, rest, hruns, hutf8, hfrontTokens, hfirstTokens, hrest⟩ :=
    Stream.exists_append_of_tokensOfRuns h
  rw [← List.nil_append (b :: after)] at hrest
  obtain ⟨runsBetween, runsBack, rfl, hutf8', hbetweenTokens, hsecondTokens, -⟩ :=
    Stream.exists_append_of_tokensOfRuns hrest
  -- the lines are cut from the back to the front, so that the runs up to each cut are known
  rw [← List.append_assoc, ← List.append_assoc] at hruns
  have hchain := hruns ▸ Stream.isChain_runs (Stream.rows lines)
  obtain ⟨upToSecond, back, rfl, hwhole, hsecondRuns, -⟩ := Stream.exists_append_of_runs_rows hruns
  obtain ⟨upToBetween, second, rfl, -, hbetweenRuns, hsecond⟩ :=
    Stream.exists_append_of_runs_rows hsecondRuns
  obtain ⟨upToFirst, between, rfl, -, hfirstRuns, hbetween⟩ :=
    Stream.exists_append_of_runs_rows hbetweenRuns
  obtain ⟨front, first, rfl, -, hfrontRuns, hfirst⟩ := Stream.exists_append_of_runs_rows hfirstRuns
  simp only [Stream.malformed?_append, Option.or_eq_none_iff] at hwhole
  obtain ⟨⟨⟨-, hfirstWhole⟩, hbetweenWhole⟩, hsecondWhole⟩ := hwhole
  refine ⟨front, first, between, second, back, rfl, ?_, ?_, ?_, ?_,
    Token.builtFrom_of_runs hfirstWhole hfirst, Token.builtFrom_of_runs hsecondWhole hsecond,
    ?_, ?_⟩
  · rw [tokens_decodeLines_eq, hfrontRuns, hfrontTokens]
  · rw [tokens_decodeLines_eq, hfirstRuns, hfirstTokens]
  · rw [tokens_decodeLines_eq, hbetweenRuns, Stream.tokensOfRuns_append, if_pos hutf8,
      hfirstTokens, hbetweenTokens, List.append_nil]
  · rw [tokens_decodeLines_eq, hsecondRuns, List.append_assoc, Stream.tokensOfRuns_append,
      if_pos hutf8, hfirstTokens, hsecondTokens, List.append_assoc]
    rfl
  · rw [List.all_append, Bool.and_eq_true] at hutf8'
    have hbytes : ((Stream.fields between).flatMap fun field => Payload.bytes field.2) = [] := by
      rw [Stream.flatMap_bytes_fields hbetweenWhole, hbetween]
      exact Stream.flatMap_bytes_of_tokensOfRuns_eq_nil hutf8'.1 hbetweenTokens
    exact List.flatMap_eq_nil_iff.mp hbytes
  · intro hkind
    obtain ⟨run, hrun, hother⟩ := Stream.exists_ne_kind_of_isChain hchain hkind
    rw [← hbetween] at hrun
    obtain ⟨field, hfield, hrunKind⟩ := List.mem_map.mp
      ((Stream.mem_map_kind_fields hbetweenWhole _).mpr (List.mem_map_of_mem hrun))
    exact ⟨field, hfield, fun h => hother (hrunKind.symm.trans h)⟩

/-- **Neighbouring tokens are of one kind only around a row of another kind without bytes.** Of any
two neighbouring tokens, the lines that they are built from can be told, and all two-field lines in
between have no bytes. If the kinds are the same, one of these is of another kind. So where every
two-field line has bytes, neighbouring tokens differ in kind. -/
theorem decodeLines_neighbours (lines : List Text) :
    (∀ before a b after, (decodeLines lines).tokens = before ++ a :: b :: after →
      ∃ front first between second back,
        lines = front ++ first ++ between ++ second ++ back ∧
          Token.Apart before a b front first between second) ∧
    ((∀ field ∈ Stream.fields lines, Payload.bytes field.2 ≠ []) →
      (decodeLines lines).tokens.IsChain fun a b => a.kind ≠ b.kind) := by
  refine ⟨fun before a b after => exists_apart, fun hbytes => ?_⟩
  rw [List.isChain_iff_forall_rel_of_append_cons_cons]
  intro a b before after htokens hkind
  obtain ⟨front, first, between, second, back, rfl, hapart⟩ := exists_apart htokens
  obtain ⟨field, hfield, -⟩ := hapart.between_other hkind
  refine hbytes field ?_ (hapart.between_empty field hfield)
  simp only [Stream.fields_append, List.mem_append]
  tauto

/-- A name without bytes keeps two texts apart. Where all lines have bytes, that does not happen. -/
theorem decodeLines_neighbours_alike :
    let alike := [Text.of "Token.Text\t'61'", Text.of "Token.Name\t''", Text.of "Token.Text\t'62'"]
    let other := [Text.of "Token.Text\t'61'", Text.of "Token.Name\t'62'"]
    let a : Token := ⟨.text, Text.of "a"⟩
    let b : Token := ⟨.text, Text.of "b"⟩
    (decodeLines alike).tokens = [] ++ a :: b :: [] ∧ a.kind = b.kind ∧
      (∃ front first between second back,
        alike = front ++ first ++ between ++ second ++ back ∧
          Token.Apart [] a b front first between second) ∧
      (∀ field ∈ Stream.fields other, Payload.bytes field.2 ≠ []) ∧
      (decodeLines other).tokens.IsChain fun a b => a.kind ≠ b.kind := by
  intro alike other a b
  have htokens : (decodeLines alike).tokens = [] ++ a :: b :: [] := by decide +kernel
  have hbytes : ∀ field ∈ Stream.fields other, Payload.bytes field.2 ≠ [] := by decide +kernel
  exact ⟨htokens, rfl, (decodeLines_neighbours alike).1 [] a b [] htokens, hbytes,
    (decodeLines_neighbours other).2 hbytes⟩

end LexBridge
