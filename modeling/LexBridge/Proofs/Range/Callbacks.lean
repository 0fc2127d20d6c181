import LexBridge.Highlight.Styled
import LexBridge.Proofs.Range.Locate

/-!
# What callbacks answer

A callback answers the calls that it gets one by one, and its answers can be read off these calls
afterwards. The first answer that is not to go on ends the calls: nothing is called behind it, and
if it is an error, the calls end in that error. So the calls end in an error just if one of the
answers is that error; no error is lost on the way, and none is made up.

A callback for styled tokens is asked about some of the calls only. The others do not count: it gets
what it would get if there were only the calls for styled tokens.

## Main definitions

* `Callback.replies`: what a callback answers to calls, one after the other.
* `Reply.ends`, `Reply.error?`: whether an answer is the last one, and the error that it is.

## Main results

* `Callback.consume_eq`: what a callback gets, read off its answers.
* `Callback.failure_consume_eq_some_iff`: which error the calls end in.
* `Callback.consume_styled`: what a callback for styled tokens gets.
-/

namespace LexBridge

variable {σ α ε : Type}

namespace Reply

/-- Whether nothing is called behind this answer. -/
def ends : Reply ε → Bool
  | proceed => false
  | _ => true

/-- The error that an answer is. -/
def error? : Reply ε → Option ε
  | fail error => some error
  | _ => none

end Reply

namespace Callback

/-- What a callback answers to calls, one after the other. -/
def replies (callback : Callback σ α ε) : σ → List α → List (Reply ε)
  | _, [] => []
  | state, call :: calls =>
    (callback state call).1 :: callback.replies (callback state call).2 calls

/-! ### One call -/

section Offer

variable {callback : Callback σ α ε} {state next : σ} {call : α} (later : σ → Delivery α ε)

theorem offer_of_proceed (h : callback state call = (.proceed, next)) :
    callback.offer state call later =
      { later next with calls := call :: (later next).calls } := by
  rw [offer, h]

theorem offer_of_stop (h : callback state call = (.stop, next)) :
    callback.offer state call later = ⟨[call], none⟩ := by
  rw [offer, h]

theorem offer_of_fail {error : ε} (h : callback state call = (.fail error, next)) :
    callback.offer state call later = ⟨[call], some error⟩ := by
  rw [offer, h]

end Offer

/-! ### All calls -/

/-- **A callback gets the calls up to the first one that it does not answer with going on**, that
one included, and they end in the error that this answer is. -/
theorem consume_eq (callback : Callback σ α ε) (calls : List α) (state : σ) :
    callback.consume state calls =
      ⟨calls.take ((callback.replies state calls).findIdx Reply.ends + 1),
        ((callback.replies state calls).find? Reply.ends).bind Reply.error?⟩ := by
  induction calls generalizing state with
  | nil => rfl
  | cons call calls ih =>
    rw [consume, replies]
    rcases h : callback state call with ⟨reply, next⟩
    cases reply with
    | proceed =>
      rw [offer_of_proceed _ h, ih, List.findIdx_cons, List.find?_cons]
      rfl
    | stop =>
      rw [offer_of_stop _ h, List.findIdx_cons, List.find?_cons]
      rfl
    | fail error =>
      rw [offer_of_fail _ h, List.findIdx_cons, List.find?_cons]
      rfl

/-- **The calls end in an error just if the callback answers one of them with it.** -/
theorem failure_consume_eq_some_iff {callback : Callback σ α ε} {error : ε} (calls : List α)
    (state : σ) :
    (callback.consume state calls).failure = some error ↔
      .fail error ∈ callback.replies state (callback.consume state calls).calls := by
  induction calls generalizing state with
  | nil => simp [consume, replies]
  | cons call calls ih =>
    rw [consume]
    rcases h : callback state call with ⟨reply, next⟩
    cases reply with
    | proceed =>
      rw [offer_of_proceed _ h]
      simp [replies, h, ih]
    | stop =>
      rw [offer_of_stop _ h]
      simp [replies, h]
    | fail other =>
      rw [offer_of_fail _ h]
      simp [replies, h, eq_comm]

/-- **A callback for styled tokens gets the calls for styled tokens**, and no others count: neither
what it gets nor the error that it ends in depends on them. -/
theorem consume_styled (theme : Theme) (callback : Callback σ Styled ε) (calls : List Located)
    (state : σ) :
    let delivery := (callback.styled theme).consume state calls
    let styled := callback.consume state (calls.filterMap (·.styled? theme))
    delivery.calls.filterMap (·.styled? theme) = styled.calls ∧
      delivery.failure = styled.failure := by
  induction calls generalizing state with
  | nil => exact ⟨rfl, rfl⟩
  | cons call calls ih =>
    simp only [consume]
    cases hstyled : call.styled? theme with
    | none =>
      have hpass : callback.styled theme state call = (.proceed, state) := by
        simp only [styled, hstyled]
      rw [offer_of_proceed _ hpass, List.filterMap_cons_none hstyled,
        List.filterMap_cons_none hstyled]
      exact ih state
    | some asked =>
      have hask : callback.styled theme state call = callback state asked := by
        simp only [styled, hstyled]
      rw [List.filterMap_cons_some hstyled, consume]
      rcases h : callback state asked with ⟨reply, next⟩
      cases reply with
      | proceed =>
        rw [offer_of_proceed _ (hask.trans h), offer_of_proceed _ h,
          List.filterMap_cons_some hstyled]
        exact ⟨congrArg (asked :: ·) (ih next).1, (ih next).2⟩
      | stop =>
        rw [offer_of_stop _ (hask.trans h), offer_of_stop _ h, List.filterMap_cons_some hstyled]
        exact ⟨rfl, rfl⟩
      | fail error =>
        rw [offer_of_fail _ (hask.trans h), offer_of_fail _ h, List.filterMap_cons_some hstyled]
        exact ⟨rfl, rfl⟩

end Callback

end LexBridge
