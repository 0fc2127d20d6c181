import LexBridge.Proofs.Token.Extension
import LexBridge.Proofs.Token.Warnings

/-!
# The lives of an accumulator

A decoder keeps its pending run as one thing. An accumulator keeps the kind and the bytes of the run
apart, and it answers every line with whether the stream goes on. It may be fed and finished in any
order and any number of times. Six things can happen to it when it takes a line: it has halted
before, the line is no row, the payload is malformed, the row is gathered, or the row begins another
run, and then the one before it either is closed or is lost. These six are told apart once
(`Accumulator.Fed`), and what holds over a whole life is read off them.

Its tokens have text, and new ones come only behind the old ones. It never holds bytes without a
kind. It goes on just as long as it has not halted. And once it has halted, lines are no longer
looked at. So it makes no difference whether feeding stops at the line that halts it or goes on to
the last line.

## Main definitions

* `Accumulator`: the state, with the kind and the bytes of the pending run apart.
* `Accumulator.flush`, `Accumulator.feed`: closing the pending run, and taking a line.
* `Decoder.Step`, `Decoder.Step.run`: what is done in a life, and all of it.
* `Accumulator.Fed`: what may happen to an accumulator that takes a line.
* `Accumulator.Sound`: what holds of it at any time.
* `Decoder.accumulator`: a decoder with its pending run taken apart.

## Main results

* `Accumulator.fed_feed`: taking a line is one of the six things.
* `Accumulator.Sound.run`, `Accumulator.tokens_isPrefix_run`: what is kept over a life.
* `Accumulator.run_accumulator`: a decoder and its accumulator live the same life.
* `Accumulator.whole_life`: all of it, for any life from the beginning.
-/

namespace LexBridge

/-- The tokens of a run have text. -/
theorem Run.payload_ne_nil_of_tokens? {run : Run} {tokens : List Token}
    (h : run.tokens? = some tokens) : ∀ token ∈ tokens, token.payload ≠ [] := by
  rw [Stream.tokens?_eq] at h
  split at h
  · obtain rfl := Option.some.inj h
    exact fun token => Stream.payload_ne_nil_of_mem_tokensOfRuns
  · cases h

/-! ### Taking lines -/

/-- The state of the fold over the lines of tool output. The pending run is kept as its kind, if
there has been a row, and the bytes gathered for it. -/
structure Accumulator where
  tokens : List Token
  kind? : Option Kind
  buffer : List UInt8
  halted : Bool
  deriving DecidableEq

namespace Accumulator

/-- What comes of something that may halt the stream: whether it goes on, the state afterwards and
the records made. -/
structure Answer where
  goesOn : Bool
  next : Accumulator
  notes : List Log.Record

/-- The state before the first line. -/
def initial : Accumulator := ⟨[], none, [], false⟩

/-- Adds the tokens of the pending run, which stays pending. The stream goes on unless the run is
not UTF-8. -/
def flush (accumulator : Accumulator) : Answer :=
  match accumulator.kind? with
  | none => ⟨true, accumulator, []⟩
  | some kind =>
    match (⟨kind, accumulator.buffer⟩ : Run).tokens? with
    | some tokens =>
      ⟨true, { accumulator with tokens := accumulator.tokens ++ tokens }, []⟩
    | none => ⟨false, accumulator, [.invalidRun kind]⟩

/-- Takes the bytes of one row. If the pending run is of another kind it is flushed first, and the
buffer is emptied whatever comes of that. -/
def gather (accumulator : Accumulator) (kind : Kind) (bytes : List UInt8) : Answer :=
  if accumulator.kind? ≠ none ∧ accumulator.kind? ≠ some kind then
    let flushed := accumulator.flush
    if flushed.goesOn then
      ⟨true, { flushed.next with kind? := some kind, buffer := bytes }, flushed.notes⟩
    else ⟨false, { flushed.next with buffer := [], halted := true }, flushed.notes⟩
  else
    ⟨true, { accumulator with kind? := some kind, buffer := accumulator.buffer ++ bytes }, []⟩

/-- Takes one line. -/
def feed (accumulator : Accumulator) (line : Text) : Answer :=
  if accumulator.halted then ⟨false, accumulator, []⟩
  else
    match Row.fields? line with
    | none => ⟨true, accumulator, []⟩
    | some (name, payload) =>
      if Payload.isWellFormed payload then
        accumulator.gather (Kind.ofLabel name) (Payload.bytes payload)
      else ⟨false, { accumulator with halted := true }, [.malformedPayload payload]⟩

section Flush

variable {accumulator : Accumulator} {kind : Kind}

theorem flush_of_kind?_eq_none (h : accumulator.kind? = none) :
    accumulator.flush = ⟨true, accumulator, []⟩ := by
  simp only [flush, h]

theorem flush_of_tokens? {tokens : List Token} (hkind : accumulator.kind? = some kind)
    (hrun : (⟨kind, accumulator.buffer⟩ : Run).tokens? = some tokens) :
    accumulator.flush =
      ⟨true, { accumulator with tokens := accumulator.tokens ++ tokens }, []⟩ := by
  simp only [flush, hkind, hrun]

theorem flush_of_invalid (hkind : accumulator.kind? = some kind)
    (hrun : (⟨kind, accumulator.buffer⟩ : Run).tokens? = none) :
    accumulator.flush = ⟨false, accumulator, [.invalidRun kind]⟩ := by
  simp only [flush, hkind, hrun]

end Flush

/-- What may happen to an accumulator that takes a line. -/
inductive Fed (accumulator : Accumulator) (line : Text) : Answer → Prop
  | halted (hhalted : accumulator.halted = true) : Fed accumulator line ⟨false, accumulator, []⟩
  | passed (hopen : accumulator.halted = false) (hfields : Row.fields? line = none) :
      Fed accumulator line ⟨true, accumulator, []⟩
  | malformed {name payload : Text} (hopen : accumulator.halted = false)
      (hfields : Row.fields? line = some (name, payload))
      (hpayload : Payload.isWellFormed payload = false) :
      Fed accumulator line
        ⟨false, { accumulator with halted := true }, [.malformedPayload payload]⟩
  | gathered {name payload : Text} (hopen : accumulator.halted = false)
      (hfields : Row.fields? line = some (name, payload))
      (hpayload : Payload.isWellFormed payload = true)
      (hkind : accumulator.kind? = none ∨ accumulator.kind? = some (Kind.ofLabel name)) :
      Fed accumulator line
        ⟨true, { accumulator with
          kind? := some (Kind.ofLabel name)
          buffer := accumulator.buffer ++ Payload.bytes payload }, []⟩
  | closed {name payload : Text} {kind : Kind} {tokens : List Token}
      (hopen : accumulator.halted = false) (hfields : Row.fields? line = some (name, payload))
      (hpayload : Payload.isWellFormed payload = true) (hkind : accumulator.kind? = some kind)
      (hother : kind ≠ Kind.ofLabel name)
      (hrun : (⟨kind, accumulator.buffer⟩ : Run).tokens? = some tokens) :
      Fed accumulator line
        ⟨true, { accumulator with
          tokens := accumulator.tokens ++ tokens
          kind? := some (Kind.ofLabel name)
          buffer := Payload.bytes payload }, []⟩
  | lost {name payload : Text} {kind : Kind} (hopen : accumulator.halted = false)
      (hfields : Row.fields? line = some (name, payload))
      (hpayload : Payload.isWellFormed payload = true) (hkind : accumulator.kind? = some kind)
      (hother : kind ≠ Kind.ofLabel name)
      (hrun : (⟨kind, accumulator.buffer⟩ : Run).tokens? = none) :
      Fed accumulator line
        ⟨false, { accumulator with buffer := [], halted := true }, [.invalidRun kind]⟩

/-- **Taking a line is one of six things.** -/
theorem fed_feed (accumulator : Accumulator) (line : Text) :
    Fed accumulator line (accumulator.feed line) := by
  cases hhalted : accumulator.halted with
  | true =>
    rw [feed, if_pos hhalted]
    exact .halted hhalted
  | false =>
    rw [feed, hhalted, if_neg Bool.false_ne_true]
    cases hfields : Row.fields? line with
    | none => exact .passed hhalted hfields
    | some fields =>
      obtain ⟨name, payload⟩ := fields
      dsimp only
      cases hpayload : Payload.isWellFormed payload with
      | false => exact .malformed hhalted hfields hpayload
      | true =>
        rw [if_pos rfl, gather]
        by_cases hkind : accumulator.kind? ≠ none ∧ accumulator.kind? ≠ some (Kind.ofLabel name)
        · obtain ⟨kind, hsome⟩ := Option.ne_none_iff_exists'.mp hkind.1
          have hother : kind ≠ Kind.ofLabel name := fun h => hkind.2 (h ▸ hsome)
          rw [if_pos hkind]
          cases hrun : (⟨kind, accumulator.buffer⟩ : Run).tokens? with
          | some tokens =>
            rw [flush_of_tokens? hsome hrun]
            exact .closed hhalted hfields hpayload hsome hother hrun
          | none =>
            rw [flush_of_invalid hsome hrun]
            exact .lost hhalted hfields hpayload hsome hother hrun
        · rw [if_neg hkind]
          exact .gathered hhalted hfields hpayload (by tauto)

/-! ### One line -/

section Fed

variable {accumulator : Accumulator} {line : Text} {answer : Answer}

/-- **The stream goes on just as long as it has not halted.** -/
theorem Fed.goesOn_iff (h : Fed accumulator line answer) :
    answer.goesOn = true ↔ answer.next.halted = false := by
  cases h with
  | halted hhalted => simp [hhalted]
  | passed hopen => simp [hopen]
  | malformed => simp
  | gathered hopen => simp [hopen]
  | closed hopen => simp [hopen]
  | lost => simp

/-- New tokens come behind the old ones, and they have text. -/
theorem Fed.exists_tokens (h : Fed accumulator line answer) :
    ∃ more, answer.next.tokens = accumulator.tokens ++ more ∧
      ∀ token ∈ more, token.payload ≠ [] := by
  cases h with
  | closed _ _ _ _ _ hrun => exact ⟨_, rfl, Run.payload_ne_nil_of_tokens? hrun⟩
  | _ => exact ⟨[], (List.append_nil _).symm, List.forall_mem_nil _⟩

/-- Bytes are not kept without a kind. -/
theorem Fed.kind?_ne_none (h : Fed accumulator line answer)
    (hkind : accumulator.buffer ≠ [] → accumulator.kind? ≠ none) :
    answer.next.buffer ≠ [] → answer.next.kind? ≠ none := by
  cases h with
  | halted => exact hkind
  | passed => exact hkind
  | malformed => exact hkind
  | gathered => exact fun _ => Option.some_ne_none _
  | closed => exact fun _ => Option.some_ne_none _
  | lost => exact fun hbuffer => absurd rfl hbuffer

/-- All that is told is a warning. -/
theorem Fed.level_of_mem (h : Fed accumulator line answer) {record : Log.Record}
    (hrecord : record ∈ answer.notes) : record.level = .warning := by
  cases h with
  | malformed => exact List.mem_singleton.mp hrecord ▸ rfl
  | lost => exact List.mem_singleton.mp hrecord ▸ rfl
  | _ => exact absurd hrecord List.not_mem_nil

end Fed

theorem feed_of_halted {accumulator : Accumulator} (h : accumulator.halted = true) (line : Text) :
    accumulator.feed line = ⟨false, accumulator, []⟩ := by
  rw [feed, if_pos h]

/-- Flushing adds tokens with text and tells warnings, and nothing else changes. -/
theorem exists_flush_eq (accumulator : Accumulator) :
    ∃ goesOn more notes,
      accumulator.flush =
        ⟨goesOn, { accumulator with tokens := accumulator.tokens ++ more }, notes⟩ ∧
      (∀ token ∈ more, token.payload ≠ []) ∧ ∀ record ∈ notes, record.level = .warning := by
  have hnothing : accumulator = { accumulator with tokens := accumulator.tokens ++ [] } := by
    rw [List.append_nil]
  rcases Option.eq_none_or_eq_some accumulator.kind? with hkind | ⟨kind, hkind⟩
  · rw [flush_of_kind?_eq_none hkind]
    exact ⟨true, [], [], by rw [← hnothing], List.forall_mem_nil _, List.forall_mem_nil _⟩
  · cases hrun : (⟨kind, accumulator.buffer⟩ : Run).tokens? with
    | none =>
      rw [flush_of_invalid hkind hrun]
      exact ⟨false, [], [.invalidRun kind], by rw [← hnothing], List.forall_mem_nil _,
        List.forall_mem_singleton.mpr rfl⟩
    | some tokens =>
      rw [flush_of_tokens? hkind hrun]
      exact ⟨true, tokens, [], rfl, Run.payload_ne_nil_of_tokens? hrun, List.forall_mem_nil _⟩

end Accumulator

/-! ### Lives -/

/-- What may be done with a decoder: it takes a line, or its pending run is closed. -/
inductive Decoder.Step
  | feed (line : Text)
  | finish

/-- Does steps one after the other: the state after the last of them, and all records made. -/
def Decoder.Step.run {α : Type} (next : α → Decoder.Step → α × List Log.Record) :
    α → List Decoder.Step → α × List Log.Record
  | state, [] => (state, [])
  | state, step :: steps =>
    let (middle, notes) := next state step
    let (last, others) := run next middle steps
    (last, notes ++ others)

/-- What a step does with a decoder. -/
def Decoder.step (decoder : Decoder) : Decoder.Step → Decoder × List Log.Record
  | .feed line => decoder.feed line
  | .finish => decoder.finish

/-- A decoder with its pending run taken apart. -/
def Decoder.accumulator (decoder : Decoder) : Accumulator :=
  { tokens := decoder.tokens
    kind? := decoder.pending.map (·.kind)
    buffer := decoder.pending.elim [] (·.bytes)
    halted := decoder.halted }

namespace Accumulator

/-- What a step does with an accumulator. -/
def step (accumulator : Accumulator) : Decoder.Step → Accumulator × List Log.Record
  | .feed line => ((accumulator.feed line).next, (accumulator.feed line).notes)
  | .finish => (accumulator.flush.next, accumulator.flush.notes)

/-- What holds of an accumulator at any time: its tokens have text, and it keeps no bytes without a
kind. -/
structure Sound (accumulator : Accumulator) : Prop where
  payload_ne_nil : ∀ token ∈ accumulator.tokens, token.payload ≠ []
  kind?_ne_none : accumulator.buffer ≠ [] → accumulator.kind? ≠ none

theorem sound_initial : initial.Sound := ⟨List.forall_mem_nil _, fun h => absurd rfl h⟩

/-- A step adds tokens with text behind the old ones. -/
theorem exists_tokens_step (accumulator : Accumulator) (step : Decoder.Step) :
    ∃ more, (accumulator.step step).1.tokens = accumulator.tokens ++ more ∧
      ∀ token ∈ more, token.payload ≠ [] := by
  cases step with
  | feed line => exact (accumulator.fed_feed line).exists_tokens
  | finish =>
    obtain ⟨goesOn, more, notes, hflush, hmore, -⟩ := accumulator.exists_flush_eq
    exact ⟨more, congrArg (·.next.tokens) hflush, hmore⟩

/-- **Every step keeps an accumulator sound.** -/
theorem Sound.step {accumulator : Accumulator} (h : accumulator.Sound) (step : Decoder.Step) :
    (accumulator.step step).1.Sound where
  payload_ne_nil := by
    obtain ⟨more, htokens, hmore⟩ := accumulator.exists_tokens_step step
    rw [htokens]
    exact List.forall_mem_append.mpr ⟨h.payload_ne_nil, hmore⟩
  kind?_ne_none := by
    cases step with
    | feed line => exact (accumulator.fed_feed line).kind?_ne_none h.kind?_ne_none
    | finish =>
      obtain ⟨goesOn, more, notes, hflush, -, -⟩ := accumulator.exists_flush_eq
      rw [Accumulator.step, hflush]
      exact h.kind?_ne_none

/-- A halted accumulator stays halted. -/
theorem halted_step {accumulator : Accumulator} (h : accumulator.halted = true)
    (step : Decoder.Step) : (accumulator.step step).1.halted = true := by
  cases step with
  | feed line =>
    rw [Accumulator.step, feed_of_halted h]
    exact h
  | finish =>
    obtain ⟨goesOn, more, notes, hflush, -, -⟩ := accumulator.exists_flush_eq
    rw [Accumulator.step, hflush]
    exact h

/-- All that a step tells is a warning. -/
theorem level_of_mem_step {accumulator : Accumulator} {step : Decoder.Step}
    {record : Log.Record} (h : record ∈ (accumulator.step step).2) : record.level = .warning := by
  cases step with
  | feed line => exact (accumulator.fed_feed line).level_of_mem h
  | finish =>
    obtain ⟨goesOn, more, notes, hflush, -, hnotes⟩ := accumulator.exists_flush_eq
    rw [Accumulator.step, hflush] at h
    exact hnotes record h

section Run

variable {accumulator : Accumulator} (steps : List Decoder.Step)

/-- **An accumulator is sound at any time.** -/
theorem Sound.run (h : accumulator.Sound) :
    (Decoder.Step.run Accumulator.step accumulator steps).1.Sound := by
  induction steps generalizing accumulator with
  | nil => exact h
  | cons step steps ih => exact ih (h.step step)

/-- **Tokens only come behind others.** -/
theorem tokens_isPrefix_run (accumulator : Accumulator) :
    accumulator.tokens <+: (Decoder.Step.run Accumulator.step accumulator steps).1.tokens := by
  induction steps generalizing accumulator with
  | nil => exact List.prefix_rfl
  | cons step steps ih =>
    obtain ⟨more, htokens, -⟩ := accumulator.exists_tokens_step step
    exact List.IsPrefix.trans ⟨more, htokens.symm⟩ (ih _)

theorem level_of_mem_run {record : Log.Record}
    (h : record ∈ (Decoder.Step.run Accumulator.step accumulator steps).2) :
    record.level = .warning := by
  induction steps generalizing accumulator with
  | nil => exact absurd h List.not_mem_nil
  | cons step steps ih => exact (List.mem_append.mp h).elim level_of_mem_step ih

theorem halted_run (h : accumulator.halted = true) :
    (Decoder.Step.run Accumulator.step accumulator steps).1.halted = true := by
  induction steps generalizing accumulator with
  | nil => exact h
  | cons step steps ih => exact ih (halted_step h step)

end Run

/-! ### The life of a decoder -/

theorem gather_accumulator {decoder : Decoder} (h : decoder.halted = false) (kind : Kind)
    (bytes : List UInt8) :
    decoder.accumulator.gather kind bytes =
      ⟨!(decoder.extend kind bytes).1.halted, (decoder.extend kind bytes).1.accumulator,
        (decoder.extend kind bytes).2⟩ := by
  obtain ⟨tokens, pending, halted⟩ := decoder
  obtain rfl : halted = false := h
  cases pending with
  | none => rfl
  | some run =>
    by_cases hkind : run.kind = kind
    · simp [gather, Decoder.accumulator, Decoder.extend, hkind]
    · cases hrun : run.tokens? with
      | none => simp [gather, flush, Decoder.accumulator, Decoder.extend, hkind, hrun]
      | some more => simp [gather, flush, Decoder.accumulator, Decoder.extend, hkind, hrun]

theorem feed_accumulator (decoder : Decoder) (line : Text) :
    decoder.accumulator.feed line =
      ⟨!(decoder.feed line).1.halted, (decoder.feed line).1.accumulator,
        (decoder.feed line).2⟩ := by
  have hhalted : decoder.accumulator.halted = decoder.halted := rfl
  rw [feed, Decoder.feed, hhalted]
  cases hopen : decoder.halted with
  | true => simp [hopen]
  | false =>
    rw [if_neg Bool.false_ne_true, if_neg Bool.false_ne_true]
    cases Row.fields? line with
    | none => simp [hopen]
    | some fields =>
      obtain ⟨name, payload⟩ := fields
      dsimp only
      split
      · exact gather_accumulator hopen _ _
      · rfl

theorem step_accumulator (decoder : Decoder) (step : Decoder.Step) :
    decoder.accumulator.step step =
      ((decoder.step step).1.accumulator, (decoder.step step).2) := by
  cases step with
  | feed line => rw [Accumulator.step, feed_accumulator, Decoder.step]
  | finish =>
    obtain ⟨tokens, pending, halted⟩ := decoder
    cases pending with
    | none => rfl
    | some run =>
      cases hrun : run.tokens? with
      | none => simp [step, flush, Decoder.accumulator, Decoder.step, Decoder.finish, hrun]
      | some more => simp [step, flush, Decoder.accumulator, Decoder.step, Decoder.finish, hrun]

/-- **A decoder and its accumulator live the same life.** -/
theorem run_accumulator (decoder : Decoder) (steps : List Decoder.Step) :
    Decoder.Step.run Accumulator.step decoder.accumulator steps =
      ((Decoder.Step.run Decoder.step decoder steps).1.accumulator,
        (Decoder.Step.run Decoder.step decoder steps).2) := by
  induction steps generalizing decoder with
  | nil => rfl
  | cons step steps ih =>
    simp only [Decoder.Step.run, step_accumulator, ih]

end Accumulator

/-! ### Feeding all lines -/

namespace Decoder

theorem run_feed_of_halted {decoder : Decoder} (h : decoder.halted = true) (lines : List Text) :
    Step.run step decoder (lines.map .feed) = (decoder, []) := by
  induction lines with
  | nil => rfl
  | cons line lines ih => simp [Step.run, step, feed, h, ih]

/-- **It does not matter whether feeding stops at the line that halts the decoder.** -/
theorem run_feed (decoder : Decoder) (lines : List Text) :
    Step.run step decoder (lines.map .feed) = decoder.feedAll lines := by
  induction lines generalizing decoder with
  | nil => rfl
  | cons line lines ih =>
    simp only [List.map_cons, Step.run, feedAll, step]
    split
    case isTrue hhalted => rw [run_feed_of_halted hhalted, List.append_nil]
    case isFalse => rw [ih]

theorem Step.run_append {α : Type} (next : α → Step → α × List Log.Record) (state : α)
    (steps more : List Step) :
    run next state (steps ++ more) =
      ((run next (run next state steps).1 more).1,
        (run next state steps).2 ++ (run next (run next state steps).1 more).2) := by
  induction steps generalizing state with
  | nil => simp [run]
  | cons step steps ih => simp [run, ih]

end Decoder

/-- The tokens of lines and what is told of them, with the last line fed even if one before it has
halted the stream. -/
theorem decodeLines_eq_run (lines : List Text) :
    let fed := Decoder.Step.run Decoder.step .initial (lines.map .feed ++ [.finish])
    decodeLines lines = ⟨fed.1.tokens, fed.2 ++
      [.decoded fed.1.tokens.length (Decoder.initial.feedAll lines).1.halted]⟩ := by
  simp [Decoder.Step.run_append, Decoder.run_feed, Decoder.Step.run, Decoder.step, decodeLines]

/-- **The life of an accumulator.** After any steps from the beginning, it is what the decoder is
after them, and has made the same records. All its tokens have text; whatever follows, they stay
where they are, and new ones come behind them; bytes are kept only with a kind. A line is answered
with whether it has left the accumulator open. After one that has not, and whatever follows it, each
line is answered in the same way, nothing is told of it, and nothing changes. Hence decoding lines,
which stops at the line that halts, gives the tokens and the warnings of feeding them all. -/
theorem Accumulator.whole_life :
    (∀ steps : List Decoder.Step,
      let decoded := Decoder.Step.run Decoder.step .initial steps
      let lived := Decoder.Step.run Accumulator.step .initial steps
      let accumulator := lived.1
      lived = (decoded.1.accumulator, decoded.2) ∧
      (∀ token ∈ accumulator.tokens, token.payload ≠ []) ∧
      (∀ more, accumulator.tokens <+:
        (Decoder.Step.run Accumulator.step accumulator more).1.tokens) ∧
      (accumulator.buffer ≠ [] → accumulator.kind? ≠ none) ∧
      (∀ line, (accumulator.feed line).goesOn = true ↔
        (accumulator.feed line).next.halted = false) ∧
      ∀ line, (accumulator.feed line).goesOn = false → ∀ more later,
        let halted := (Decoder.Step.run Accumulator.step accumulator (.feed line :: more)).1
        halted.feed later = ⟨false, halted, []⟩) ∧
    ∀ lines : List Text,
      let fed := Decoder.Step.run Accumulator.step .initial (lines.map .feed ++ [.finish])
      (decodeLines lines).tokens = fed.1.tokens ∧
      (decodeLines lines).log.filter (fun record => record.level = .warning) = fed.2 := by
  refine ⟨fun steps => ?_, fun lines => ?_⟩
  · have hsound := sound_initial.run steps
    refine ⟨run_accumulator .initial steps, hsound.payload_ne_nil,
      fun more => tokens_isPrefix_run more _, hsound.kind?_ne_none,
      fun line => (fed_feed _ line).goesOn_iff,
      fun line hline more later => feed_of_halted (halted_run more ?_) later⟩
    exact Bool.of_not_eq_false fun hopen =>
      Bool.false_ne_true (hline.symm.trans ((fed_feed _ line).goesOn_iff.mpr hopen))
  · intro fed
    have hrun := run_accumulator .initial (lines.map .feed ++ [.finish])
    have hwarnings : fed.2.filter (fun record => record.level = .warning) = fed.2 :=
      List.filter_eq_self.mpr fun record hrecord => decide_eq_true (level_of_mem_run _ hrecord)
    have hrecords : fed.2 = (Decoder.Step.run Decoder.step .initial _).2 := congrArg (·.2) hrun
    rw [decodeLines_eq_run]
    refine ⟨congrArg (·.1.tokens) hrun.symm, ?_⟩
    rw [← hrecords, List.filter_append, hwarnings]
    exact List.append_nil _

/-- A run that is not UTF-8 is told when it is closed, and again when it is lost to a row of another
kind. After that, nothing is told, and a bad payload is not looked at. -/
theorem Accumulator.whole_life_lost :
    let steps : List Decoder.Step :=
      [.feed (Text.of "Token.Text\t'61'"), .feed (Text.of "Token.Name\t'ff'"), .finish]
    let lived := Decoder.Step.run Accumulator.step .initial steps
    let line := Text.of "Token.Text\t'62'"
    let more : List Decoder.Step := [.feed (Text.of "Token.Text\t'6'"), .finish]
    let halted := (Decoder.Step.run Accumulator.step lived.1 (.feed line :: more)).1
    lived = (⟨[⟨.text, Text.of "a"⟩], some .name, [0xFF], false⟩, [.invalidRun .name]) ∧
      (lived.1.feed line).goesOn = false ∧
      halted = ⟨[⟨.text, Text.of "a"⟩], some .name, [], true⟩ ∧
      halted.feed line = ⟨false, halted, []⟩ := by
  intro steps lived line more halted
  have hlost : (lived.1.feed line).goesOn = false := by decide +kernel
  obtain ⟨-, -, -, -, -, hhalted⟩ := Accumulator.whole_life.1 steps
  exact ⟨by decide +kernel, hlost, by decide +kernel, hhalted line hlost more line⟩

end LexBridge
