import LexBridge.Highlight.Tokens
import LexBridge.Proofs.Range.Soundness
import LexBridge.Proofs.Token.Stream

/-!
# Tokens of a source, whatever the tool prints

The tool is asked and its answer is decoded, and the tokens that come out are looked for in the
source. Nothing is known about the answer, which any runner may have made up: the tokens have text
because the decoder makes no others, and their ranges are sound because the search does not trust
them.

## Main results

* `payload_ne_nil_of_tokenize`: tokens have text, whatever they were decoded from.
* `parse_of_error`, `parse_of_ok`: what a callback gets, without tokens and with them.
* `parse_always_of_ok`: the calls of a callback that always wants to go on.
* `parse_sound`: the calls are sound.
-/

namespace LexBridge

variable {config : Config} {runner : Runner} {identifier : Text} {lexer : Value} {source : Text}
  {disk : Disk} {tokens : List Token}

theorem payload_ne_nil_of_decodeOutputValue {output : Value} {decoded : Decoded} {token : Token}
    (h : decodeOutputValue output = .ok decoded) (htoken : token ∈ decoded.tokens) :
    token.payload ≠ [] := by
  cases output with
  | text output =>
    obtain rfl := Except.ok.inj h
    exact payload_ne_nil_of_mem_decodeLines htoken
  | _ => cases h

/-- What comes out of an answer was decoded from it. -/
theorem decodeOutputValue_of_bind {result : Except Failure Value} {decoded : Decoded}
    (h : (result.bind fun output => (decodeOutputValue output).mapError .badValue) =
      .ok decoded) :
    ∃ output, result = .ok output ∧ decodeOutputValue output = .ok decoded := by
  cases result with
  | error failure => cases h
  | ok output =>
    refine ⟨output, rfl, ?_⟩
    cases houtput : decodeOutputValue output with
    | error fault => simp [Except.bind, houtput, Except.mapError] at h
    | ok other => simpa [Except.bind, houtput, Except.mapError] using h

/-- Tokens have text, whatever they were decoded from. -/
theorem payload_ne_nil_of_tokenize
    (h : (tokenize config runner identifier lexer source disk).result = .ok tokens) :
    ∀ token ∈ tokens, token.payload ≠ [] := by
  intro token htoken
  unfold tokenize at h
  simp only at h
  split at h
  · cases h
  · rename_i decoded hdecoded
    obtain rfl := Except.ok.inj h
    obtain ⟨output, -, houtput⟩ := decodeOutputValue_of_bind hdecoded
    exact payload_ne_nil_of_decodeOutputValue houtput htoken

section Callbacks

variable {σ : Type} (callback : Callback σ Located Failure) (state : σ)

/-- Without tokens there are no calls. -/
theorem parse_of_error {failure : Failure}
    (h : (tokenize config runner identifier lexer source disk).result = .error failure) :
    parse config runner identifier lexer source callback state disk =
      ⟨[], .error failure, (tokenize config runner identifier lexer source disk).disk,
        (tokenize config runner identifier lexer source disk).journal⟩ := by
  simp only [parse, h]

/-- With tokens the callback gets calls for them, on the disk that the tool has left. -/
theorem parse_of_ok
    (h : (tokenize config runner identifier lexer source disk).result = .ok tokens) :
    let outcome := tokenize config runner identifier lexer source disk
    let delivery := callback.consume state ((⟨0, source⟩ : Place).located config.offsetUnits tokens)
    parse config runner identifier lexer source callback state disk =
      ⟨delivery.calls, delivery.failure.elim (.ok ()) .error, outcome.disk,
        outcome.journal ++ delivery.calls.map fun call => .called call outcome.disk⟩ := by
  simp only [parse, h, mapRanges, deliver_eq_consume]
  congr 2
  split <;> rename_i hfailure <;> rw [hfailure] <;> rfl

end Callbacks

theorem calls_parse_of_error {failure : Failure}
    (h : (tokenize config runner identifier lexer source disk).result = .error failure) :
    (parse config runner identifier lexer source .always () disk).calls = [] := by
  rw [parse_of_error .always () h]

/-- A callback that always wants to go on gets all calls, and no error is made of them. -/
theorem parse_always_of_ok
    (h : (tokenize config runner identifier lexer source disk).result = .ok tokens) :
    (parse config runner identifier lexer source .always () disk).calls =
        (⟨0, source⟩ : Place).located config.offsetUnits tokens ∧
      (parse config runner identifier lexer source .always () disk).outcome.result = .ok () := by
  simp only [parse_of_ok .always () h, Callback.consume_always, Option.elim_none, and_self]

/-- **Ranges are sound whatever the tool prints.** Any runner may answer, with any output or none:
the calls that a callback gets if it always wants to go on are sound for the source. -/
theorem parse_sound (config : Config) (runner : Runner) (identifier : Text) (lexer : Value)
    (source : Text) (disk : Disk) :
    Located.Sound config.offsetUnits source
      (parse config runner identifier lexer source .always () disk).calls := by
  cases h : (tokenize config runner identifier lexer source disk).result with
  | error failure =>
    rw [calls_parse_of_error h]
    exact Located.sound_nil _ _
  | ok tokens =>
    rw [(parse_always_of_ok h).1]
    exact Place.sound_located _ _ (payload_ne_nil_of_tokenize h)

end LexBridge
