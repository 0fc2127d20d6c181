import LexBridge.Proofs.Highlight.Tokens
import LexBridge.Proofs.Range.Callbacks

/-!
# Styled tokens are the tokens that the theme colours

Styling a source is parsing it to the end and looking through the calls: those for tokens that the
theme gives a colour are kept, with their colours, and the others are left out. A callback gets the
calls that are kept, up to the first one that it does not answer with going on.

So a token without colours is passed over without a trace. It does not end the calls, whatever the
callback would have answered, and the search for the tokens behind it is the one of the complete
parse: no range depends on the theme, nor on the callback.

## Main definitions

* `Theme.Colours`: the display style that colours a kind of tokens.

## Main results

* `styled?_eq_some_iff`: which calls are kept, and what is added to them.
* `parseWithTheme_eq_filter`: styled tokens as the complete parse, looked through and cut.
-/

namespace LexBridge

/-- A theme colours a kind with a display style if it answers the selector of the kind with that
style, and the style has a foreground or a background. Font styles are no colours. -/
def Theme.Colours (theme : Theme) (kind : Kind) (scope : Scope) : Prop :=
  ∃ selector, kind.selector? = some selector ∧ theme selector = some scope ∧
    (scope.foreground ≠ none ∨ scope.background ≠ none)

namespace Attributes

theorem isEmpty_none : Attributes.none.isEmpty = true := rfl

theorem isEmpty_eq_false_iff {attributes : Attributes} :
    attributes.isEmpty = false ↔ attributes.foreground ≠ .none ∨ attributes.background ≠ .none := by
  obtain ⟨foreground, background⟩ := attributes
  cases foreground <;> cases background <;> simp [isEmpty]

end Attributes

section Colours

variable {theme : Theme} {scope : Scope}

theorem Token.attributes_of_colours {token : Token} (h : theme.Colours token.kind scope) :
    token.attributes theme = ⟨scope.foreground, scope.background⟩ := by
  obtain ⟨selector, hselector, hanswer, -⟩ := h
  rw [attributes, hselector, Option.bind_some, hanswer]

theorem Token.exists_colours {token : Token} (h : (token.attributes theme).isEmpty = false) :
    ∃ scope, theme.Colours token.kind scope := by
  rw [attributes] at h
  cases hscope : token.kind.selector?.bind theme with
  | none =>
    rw [hscope, Attributes.isEmpty_none] at h
    cases h
  | some scope =>
    rw [hscope] at h
    obtain ⟨selector, hselector, hanswer⟩ := Option.bind_eq_some_iff.mp hscope
    exact ⟨scope, selector, hselector, hanswer, Attributes.isEmpty_eq_false_iff.mp h⟩

theorem styled?_of_colours {call : Located} (h : theme.Colours call.token.kind scope) :
    call.styled? theme =
      some ⟨call.range, call.token, scope.foreground, scope.background⟩ := by
  obtain ⟨-, -, -, hsome⟩ := id h
  have hempty : (⟨scope.foreground, scope.background⟩ : Attributes).isEmpty = false :=
    Attributes.isEmpty_eq_false_iff.mpr hsome
  simp only [Located.styled?, Token.attributes_of_colours h, hempty, Bool.false_eq_true, if_false]

/-- **A call is kept just if the theme colours the kind of its token**, and exactly the colours of
the style are added to it. -/
theorem styled?_eq_some_iff {call : Located} {styled : Styled} :
    call.styled? theme = some styled ↔
      ∃ scope, theme.Colours call.token.kind scope ∧
        styled = ⟨call.range, call.token, scope.foreground, scope.background⟩ := by
  constructor
  · intro h
    cases hempty : (call.token.attributes theme).isEmpty with
    | true => simp [Located.styled?, hempty] at h
    | false =>
      obtain ⟨scope, hcolours⟩ := Token.exists_colours hempty
      rw [styled?_of_colours hcolours] at h
      exact ⟨scope, hcolours, (Option.some.inj h).symm⟩
  · rintro ⟨scope, hcolours, rfl⟩
    exact styled?_of_colours hcolours

end Colours

/-- A style with nothing but font styles does not keep a call. -/
example : (⟨⟨0, 1⟩, .comment, [0x23]⟩ : Located).styled?
    (fun _ => some ⟨none, none, [.text (Text.of "italic")]⟩) = none := rfl

/-- **Styled tokens are the complete parse, looked through by the theme and cut by the callback.**
Of the calls of a callback that always wants to go on, those for tokens that the theme colours are
kept, with the foreground and the background of the style, as far as it has them. A callback for
styled tokens gets the calls that are kept, up to the first one that it does not answer with going
on. If the tool fails, both runs end in that failure; otherwise the styled run ends well, or in the
error that the callback has answered with. -/
theorem parseWithTheme_eq_filter {σ : Type} (config : Config) (runner : Runner) (identifier : Text)
    (lexer : Value) (source : Text) (disk : Disk) (theme : Theme)
    (callback : Callback σ Styled Failure) (state : σ) :
    let complete := parse config runner identifier lexer source .always () disk
    let styled := parseWithTheme config runner identifier lexer source theme callback state disk
    let kept := complete.calls.filterMap (·.styled? theme)
    let replies := callback.replies state kept
    (∀ (call : Located) (painted : Styled), call.styled? theme = some painted ↔
        ∃ scope, theme.Colours call.token.kind scope ∧
          painted = ⟨call.range, call.token, scope.foreground, scope.background⟩) ∧
      styled.calls = kept.take (replies.findIdx Reply.ends + 1) ∧
      styled.outcome.result = complete.outcome.result.bind fun _ =>
        ((replies.find? Reply.ends).bind Reply.error?).elim (.ok ()) .error := by
  intro complete styled kept replies
  refine ⟨fun _ _ => styled?_eq_some_iff, ?_⟩
  cases htokens : (tokenize config runner identifier lexer source disk).result with
  | error failure =>
    -- without tokens nothing is called, and both runs end in the failure of the tool
    have hcomplete : complete = _ := parse_of_error .always () htokens
    have hstyled := parse_of_error (callback.styled theme) state htokens
    have hkept : kept = [] := by simp only [kept, hcomplete, List.filterMap_nil]
    simp only [styled, parseWithTheme, hstyled, hkept, hcomplete, List.filterMap_nil,
      List.take_nil, Except.bind, and_self]
  | ok tokens =>
    obtain ⟨hcomplete, hresult⟩ := parse_always_of_ok htokens
    have hstyled := parse_of_ok (callback.styled theme) state htokens
    obtain ⟨hcalls, hfailure⟩ := Callback.consume_styled theme callback complete.calls state
    have hcut := Callback.consume_eq callback kept state
    simp only [styled, parseWithTheme, hstyled, ← hcomplete]
    refine ⟨hcalls.trans (congrArg Delivery.calls hcut), ?_⟩
    rw [hresult, hfailure, hcut]
    rfl

end LexBridge
