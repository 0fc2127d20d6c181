import LexBridge.Proofs.Highlight.Tokens
import LexBridge.Proofs.Journal
import LexBridge.Proofs.Range.Callbacks
import LexBridge.Proofs.Range.Cursor

/-!
# Callbacks cut the calls and do not change them

There is one list of calls for a source and its tokens: the calls that a callback gets which always
wants to go on. Any other callback gets the beginning of this list, up to the first call that it
does not answer with going on. What a callback has answered before decides whether there is another
call, and never what that call is. So of two callbacks that see the same source, one always gets the
beginning of what the other one gets, whatever they answer and remember.

The same holds when the tokens come from the lexer tool. Beyond the calls a callback decides only
how the run ends, and that only if there are tokens: the disk and the log are those of the complete
run.

## Main definitions

* `Delivery.CutBy`: calls that a callback has cut out of a list of calls.
* `Highlighted.CutBy`: a parse whose callback has cut the calls of a complete parse.

## Main results

* `Callback.cutBy_consume`: what a callback gets is cut out of what there is.
* `Delivery.CutBy.prefix_or`: two callbacks that cut the same calls.
* `mapRanges_cutBy`, `parse_cutBy`: all tokens of a source, and the tokens of the lexer tool.
* `callbacks_only_cut`: both for any two callbacks.
-/

namespace LexBridge

variable {σ τ α ε δ : Type}

/-- The calls of a delivery are the given ones up to the first that the callback does not answer
with going on, that one included, and the delivery ends in the error which this answer is, if it is
one. -/
structure Delivery.CutBy (delivery : Delivery α ε) (callback : Callback σ α ε) (state : σ)
    (complete : List α) : Prop where
  calls_eq : delivery.calls =
    complete.take ((callback.replies state complete).findIdx Reply.ends + 1)
  failure_eq : delivery.failure =
    ((callback.replies state complete).find? Reply.ends).bind Reply.error?

theorem Callback.cutBy_consume (callback : Callback σ α ε) (state : σ) (complete : List α) :
    (callback.consume state complete).CutBy callback state complete := by
  rw [consume_eq]
  exact ⟨rfl, rfl⟩

/-- Of two callbacks that cut the same calls, one gets the beginning of what the other gets. -/
theorem Delivery.CutBy.prefix_or {first : Delivery α ε} {second : Delivery α δ}
    {callback : Callback σ α ε} {other : Callback τ α δ} {state : σ} {start : τ}
    {complete : List α} (hfirst : first.CutBy callback state complete)
    (hsecond : second.CutBy other start complete) :
    first.calls <+: second.calls ∨ second.calls <+: first.calls := by
  rw [hfirst.calls_eq, hsecond.calls_eq]
  exact List.prefix_or_prefix_of_prefix (List.take_prefix _ _) (List.take_prefix _ _)

/-! ### All tokens of a source -/

/-- **Any callback cuts the calls of the complete run.** -/
theorem mapRanges_cutBy (units : OffsetUnits) (callback : Callback σ Located ε) (state : σ)
    (source : Text) (tokens : List Token) :
    (mapRanges units callback state source tokens).CutBy callback state
      (mapRanges units .always () source tokens : Delivery Located ε).calls := by
  rw [calls_mapRanges_always, mapRanges_eq_consume]
  exact callback.cutBy_consume state _

/-! ### The tokens of the lexer tool -/

section Parse

variable (config : Config) (runner : Runner) (identifier : Text) (lexer : Value) (source : Text)
  (disk : Disk)

/-- The calls of a parse are those that the callback has cut out of the calls of a complete parse.
The parse ends in the failure of the complete one, and in the error of the callback if that has not
failed; disk and log are those of the complete parse. -/
structure Highlighted.CutBy (parsed complete : Highlighted Located)
    (callback : Callback σ Located Failure) (state : σ) (delivery : Delivery Located Failure) :
    Prop where
  cutBy : delivery.CutBy callback state complete.calls
  calls_eq : parsed.calls = delivery.calls
  result_eq : parsed.outcome.result =
    complete.outcome.result.bind fun _ => delivery.failure.elim (.ok ()) .error
  disk_eq : parsed.outcome.disk = complete.outcome.disk
  log_eq : parsed.outcome.journal.log = complete.outcome.journal.log

/-- **Any callback cuts the calls of the complete parse**, whatever the runner answers. -/
theorem parse_cutBy (callback : Callback σ Located Failure) (state : σ) :
    let complete := parse config runner identifier lexer source .always () disk
    let parsed := parse config runner identifier lexer source callback state disk
    parsed.CutBy complete callback state (callback.consume state complete.calls) := by
  intro complete parsed
  have hcut := callback.cutBy_consume state complete.calls
  cases htokens : (tokenize config runner identifier lexer source disk).result with
  | error failure =>
    have hcomplete : complete = _ := parse_of_error .always () htokens
    have hparsed : parsed = _ := parse_of_error callback state htokens
    rw [hcomplete] at hcut ⊢
    rw [hparsed]
    exact ⟨hcut, rfl, rfl, rfl, rfl⟩
  | ok tokens =>
    have hcomplete : complete = _ := parse_of_ok .always () htokens
    have hparsed : parsed = _ := parse_of_ok callback state htokens
    rw [hcomplete, Callback.consume_always] at hcut ⊢
    rw [hparsed]
    refine ⟨hcut, rfl, rfl, rfl, ?_⟩
    simp only [Journal.log_append, Journal.log_map_called]

/-- **Callbacks cut the calls and do nothing else to them.** The calls that any callback gets for
the tokens of a source are those of the run with a callback that always wants to go on, up to the
first call that is not answered with going on, and they end in the error which this answer is, if it
is one; a search that counts its offsets on makes the same calls. So what one callback gets and what
another one gets are never different calls, only more or fewer of them. All this holds too for the
tokens of the lexer tool, whatever its runner answers. -/
theorem callbacks_only_cut (units : OffsetUnits) (tokens : List Token)
    (callback : Callback σ Located ε) (state : σ) (other : Callback τ Located δ) (start : τ)
    (listener : Callback σ Located Failure) (second : Callback τ Located Failure) :
    (let complete : Delivery Located ε := mapRanges units .always () source tokens
     let delivery := mapRanges units callback state source tokens
     let another := mapRanges units other start source tokens
     delivery.CutBy callback state complete.calls ∧
      Cursor.mapRanges units callback state source tokens = delivery ∧
      (delivery.calls <+: another.calls ∨ another.calls <+: delivery.calls)) ∧
    (let complete := parse config runner identifier lexer source .always () disk
     let parsed := parse config runner identifier lexer source listener state disk
     let another := parse config runner identifier lexer source second start disk
     (∃ delivery, parsed.CutBy complete listener state delivery) ∧
      (parsed.calls <+: another.calls ∨ another.calls <+: parsed.calls)) := by
  refine ⟨⟨mapRanges_cutBy .., Cursor.mapRanges_eq .., ?_⟩, ⟨_, parse_cutBy ..⟩, ?_⟩
  · have hcallback := mapRanges_cutBy units callback state source tokens
    have hother := mapRanges_cutBy units other start source tokens
    rw [calls_mapRanges_always] at hcallback hother
    exact hcallback.prefix_or hother
  · have hlistener := parse_cutBy config runner identifier lexer source disk listener state
    have hsecond := parse_cutBy config runner identifier lexer source disk second start
    rw [hlistener.calls_eq, hsecond.calls_eq]
    exact hlistener.cutBy.prefix_or hsecond.cutBy

end Parse

end LexBridge
