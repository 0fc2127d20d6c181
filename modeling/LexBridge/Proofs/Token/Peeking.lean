import LexBridge.Proofs.Token.Accumulator

/-!
# Finishing early

An accumulator may be finished at any time, and lines may still follow. To finish is only to look at
what there is: the pending run stays pending, so nothing that comes later is different for it. What
a line does depends on the kind and the bytes of the pending run and on whether the stream has
halted, but never on the tokens, and these are all that finishing changes.

The tokens do show it. A run that is looked at is told then, and once more when it is closed by a
row of another kind or looked at again. So the tokens are those of the lines alone, with a copy of
the pending run put in wherever the accumulator was finished. No copy comes of a run that has no
bytes, that a halt has emptied, or whose last character is not complete yet.

## Main definitions

* `Accumulator.pending?`: the token that the pending run would be.
* `Decoder.Step.line?`: the line of a step that takes one.
* `Accumulator.Peeked`: the tokens of steps, put together along the life of the lines alone.

## Main results

* `Accumulator.next_flush`: what finishing does.
* `Accumulator.exists_feed_eq`: what a line does, whatever the tokens are.
* `Accumulator.Peeked.sublist`: nothing but copies is put in.
* `Accumulator.exists_run_eq`: a life is that of its lines, but for the tokens.
* `Accumulator.peeking_leaves_copies`: both lives compared.
-/

namespace LexBridge

namespace Accumulator

/-- The token that the pending run would be: none without a kind, without bytes, or if the bytes are
no UTF-8. -/
def pending? (accumulator : Accumulator) : Option Token :=
  match accumulator.kind? with
  | none => none
  | some kind =>
    if accumulator.buffer = [] then none
    else (Utf8.decode? accumulator.buffer).map fun payload => ⟨kind, payload⟩

/-! ### One step -/

/-- **Finishing adds the token of the pending run**, if there is one, and changes nothing else. -/
theorem next_flush (accumulator : Accumulator) :
    accumulator.flush.next =
      { accumulator with tokens := accumulator.tokens ++ accumulator.pending?.toList } := by
  obtain ⟨tokens, kind?, buffer, halted⟩ := accumulator
  cases kind? with
  | none => simp [flush, pending?]
  | some kind =>
    by_cases hbuffer : buffer = []
    · simp [flush, pending?, Run.tokens?, hbuffer]
    · cases hdecode : Utf8.decode? buffer <;>
        simp [flush, pending?, Run.tokens?, hbuffer, hdecode]

/-- **What a line does, it does whatever the tokens are.** They are handed through, and what it adds
to them comes behind them. -/
theorem exists_feed_eq (accumulator : Accumulator) (line : Text) :
    ∃ more, ∀ tokens, { accumulator with tokens := tokens }.feed line =
      { accumulator.feed line with
        next := { (accumulator.feed line).next with tokens := tokens ++ more } } := by
  have hfed := accumulator.fed_feed line
  generalize accumulator.feed line = answer at hfed ⊢
  cases hfed with
  | halted hhalted => exact ⟨[], fun tokens => by simp [feed, hhalted]⟩
  | passed hopen hfields => exact ⟨[], fun tokens => by simp [feed, hopen, hfields]⟩
  | malformed hopen hfields hpayload =>
    exact ⟨[], fun tokens => by simp [feed, hopen, hfields, hpayload]⟩
  | gathered hopen hfields hpayload hkind =>
    refine ⟨[], fun tokens => ?_⟩
    rcases hkind with hkind | hkind <;> simp [feed, gather, hopen, hfields, hpayload, hkind]
  | @closed _ _ _ more hopen hfields hpayload hkind hother hrun =>
    exact ⟨more, fun tokens => by
      simp [feed, gather, flush, hopen, hfields, hpayload, hkind, hother, hrun]⟩
  | lost hopen hfields hpayload hkind hother hrun =>
    exact ⟨[], fun tokens => by
      simp [feed, gather, flush, hopen, hfields, hpayload, hkind, hother, hrun]⟩

end Accumulator

/-! ### Lives -/

/-- The line of a step that takes one. -/
def Decoder.Step.line? : Decoder.Step → Option Text
  | feed line => some line
  | finish => none

/-- The last step comes after all others. -/
theorem Decoder.Step.run_concat {α : Type} (next : α → Decoder.Step → α × List Log.Record)
    (state : α) (steps : List Decoder.Step) (last : Decoder.Step) :
    (run next state (steps ++ [last])).1 = (next (run next state steps).1 last).1 := by
  rw [run_append]
  rfl

namespace Accumulator

/-- Steps, the accumulator that takes their lines and is never finished, and its tokens with a copy
of the token of its pending run put in at each point where the steps finish. -/
inductive Peeked : List Decoder.Step → Accumulator → List Token → Prop
  | initial : Peeked [] .initial []
  | feed {steps : List Decoder.Step} {accumulator : Accumulator} {tokens more : List Token}
      (h : Peeked steps accumulator tokens) (line : Text)
      (hmore : (accumulator.feed line).next.tokens = accumulator.tokens ++ more) :
      Peeked (steps ++ [.feed line]) (accumulator.feed line).next (tokens ++ more)
  | finish {steps : List Decoder.Step} {accumulator : Accumulator} {tokens : List Token}
      (h : Peeked steps accumulator tokens) :
      Peeked (steps ++ [.finish]) accumulator (tokens ++ accumulator.pending?.toList)

/-- Nothing but copies is put in. -/
theorem Peeked.sublist {steps : List Decoder.Step} {accumulator : Accumulator}
    {tokens : List Token} (h : Peeked steps accumulator tokens) :
    accumulator.tokens.Sublist tokens := by
  induction h with
  | initial => exact List.Sublist.refl _
  | feed _ line hmore ih =>
    rw [hmore]
    exact ih.append_right _
  | finish _ ih => exact ih.trans (List.sublist_append_left _ _)

/-- **A life is that of its lines alone, but for the copies among the tokens.** -/
theorem exists_run_eq (steps : List Decoder.Step) :
    let alone := (Decoder.Step.run step .initial ((steps.filterMap (·.line?)).map .feed)).1
    ∃ tokens, Peeked steps alone tokens ∧
      (Decoder.Step.run step .initial steps).1 = { alone with tokens := tokens } := by
  -- from the last step, since what a step puts in is put behind all that was there before
  induction steps using List.reverseRecOn with
  | nil => exact ⟨[], .initial, rfl⟩
  | append_singleton steps last ih =>
    obtain ⟨tokens, hpeeked, hlived⟩ := ih
    rw [Decoder.Step.run_concat, hlived, List.filterMap_append]
    cases last with
    | feed line =>
      have hline : [Decoder.Step.feed line].filterMap (·.line?) = [line] := rfl
      rw [hline, List.map_append, List.map_singleton, Decoder.Step.run_concat]
      generalize (Decoder.Step.run step .initial _).1 = alone at hpeeked ⊢
      obtain ⟨more, hfeed⟩ := alone.exists_feed_eq line
      refine ⟨tokens ++ more, hpeeked.feed line (congrArg (·.next.tokens) (hfeed alone.tokens)), ?_⟩
      exact congrArg (·.next) (hfeed tokens)
    | finish =>
      have hline : [Decoder.Step.finish].filterMap (·.line?) = [] := rfl
      rw [hline, List.append_nil]
      generalize (Decoder.Step.run step .initial _).1 = alone at hpeeked ⊢
      exact ⟨_, hpeeked.finish, next_flush { alone with tokens := tokens }⟩

end Accumulator

/-- **Finishing early leaves no trace but copies.** Take any steps, and the lines among them alone.
After the steps, kind and bytes of the pending run are what they are after the lines, and the stream
has halted or not alike; so the next line is answered alike too. The tokens are those of the lines
with the token of the pending run put in wherever the steps finish: one copy if the run at that time
has bytes and these are UTF-8, and none otherwise. -/
theorem Accumulator.peeking_leaves_copies (steps : List Decoder.Step) :
    let lived := (Decoder.Step.run Accumulator.step .initial steps).1
    let alone := (Decoder.Step.run Accumulator.step .initial
      ((steps.filterMap (·.line?)).map .feed)).1
    lived = (Decoder.Step.run Decoder.step .initial steps).1.accumulator ∧
      lived.kind? = alone.kind? ∧ lived.buffer = alone.buffer ∧ lived.halted = alone.halted ∧
      (∀ line, (lived.feed line).goesOn = (alone.feed line).goesOn) ∧
      Peeked steps alone lived.tokens := by
  intro lived alone
  obtain ⟨tokens, hpeeked, hrun⟩ := exists_run_eq steps
  have hlived : lived = { alone with tokens := tokens } := hrun
  refine ⟨congrArg (·.1) (run_accumulator .initial steps), ?_⟩
  rw [hlived]
  refine ⟨rfl, rfl, rfl, fun line => ?_, hpeeked⟩
  obtain ⟨more, hfeed⟩ := alone.exists_feed_eq line
  exact congrArg (·.goesOn) (hfeed tokens)

/-- A look in the middle of a character puts nothing in, and two looks put two copies in. -/
example :
    (Decoder.Step.run Accumulator.step .initial
      [.feed (Text.of "Token.Text\t'c3'"), .finish, .feed (Text.of "Token.Text\t'a9'"), .finish,
        .finish, .feed (Text.of "Token.Name\t''")]).1.tokens =
      [⟨.text, Text.of "é"⟩, ⟨.text, Text.of "é"⟩, ⟨.text, Text.of "é"⟩] := by
  decide +kernel

end LexBridge
