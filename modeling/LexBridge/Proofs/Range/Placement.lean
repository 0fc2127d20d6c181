import LexBridge.Proofs.Range.Position
import LexBridge.Proofs.Range.Soundness
import Mathlib.Data.List.Forall2

/-!
# Tokens that can be placed are found

The tool may drop text of its source, and the tokens are found all the same. If their payloads stand
in the source in their order and without overlap, no matter where, then the search finds every one
of them.

The search is greedy: it takes the first index at which a payload stands, and this is never too
early for the tokens that follow. Compared with any placement of the tokens, it is not behind: what
it finds stands at the index of the placement or before it, so it ends there or before it as well,
and all that the placement has left for the next token is still left for the search.

## Main definitions

* `Token.Placed`: a placement of tokens in a source.
* `Located.FoundBy`: a call whose range is at an index or before it.

## Main results

* `Place.foundBy_located`: the search is not behind a placement.
* `mapRanges_of_placed`: all tokens that can be placed are found.
-/

namespace LexBridge

/-- A placement of tokens in a source, from a start on: each payload stands at its index, and the
next one not before its end. -/
inductive Token.Placed (source : Text) : Nat → List Token → List Nat → Prop
  | nil {start : Nat} : Placed source start [] []
  | cons {start index : Nat} {token : Token} {tokens : List Token} {indices : List Nat}
      (hstart : start ≤ index) (hoccurs : token.payload.OccursAt source index)
      (h : Placed source (index + token.payload.length) tokens indices) :
      Placed source start (token :: tokens) (index :: indices)

/-- A call whose range is at an index of its source or before it. -/
def Located.FoundBy (units : OffsetUnits) (source : Text) (call : Located) (index : Nat) : Prop :=
  ∃ found, found ≤ index ∧
    call.range = ⟨units.size (source.take found), units.size call.token.payload⟩

namespace Located.FoundBy

variable {units : OffsetUnits} {source : Text} {index : Nat} {call : Located}

theorem isResolved (h : Located.FoundBy units source call index) :
    call.range.isResolved = true := by
  obtain ⟨found, -, hrange⟩ := h
  rw [hrange]
  exact Range.isResolved_of_nonneg (Int.natCast_nonneg _)

theorem start_le (h : Located.FoundBy .codePoint source call index) : call.range.start ≤ index := by
  obtain ⟨found, hle, hrange⟩ := h
  have hstart := List.length_take_le found source
  simp only [hrange, OffsetUnits.size_codePoint]
  omega

end Located.FoundBy

/-- **The search is not behind a placement**: from a position that is not behind its start, it finds
all tokens, each at its index or before it. -/
theorem Place.foundBy_located (units : OffsetUnits) {source : Text} {start : Nat}
    {tokens : List Token} {indices : List Nat} (h : Token.Placed source start tokens indices)
    (htokens : ∀ token ∈ tokens, token.payload ≠ []) {position : Nat}
    (hposition : position ≤ start) :
    let calls := (ofPosition units source position).located units tokens
    calls.map Located.token = tokens ∧
      List.Forall₂ (Located.FoundBy units source) calls indices := by
  induction h generalizing position with
  | nil => exact ⟨rfl, .nil⟩
  | @cons start index token tokens indices hstart hoccurs h ih =>
    obtain ⟨htoken, hothers⟩ := List.forall_mem_cons.mp htokens
    have hle : position ≤ index := Nat.le_trans hposition hstart
    have hend := hoccurs.add_length_le htoken
    have hpos := List.length_pos_iff.mpr htoken
    cases hfound : token.payload.indexFrom? source position with
    | none => exact absurd hoccurs (Text.indexFrom?_eq_none_iff.mp hfound index hle)
    | some found =>
      obtain ⟨-, -, hleast⟩ := Text.indexFrom?_eq_some_iff.mp hfound
      have hearly : found ≤ index := hleast index hle hoccurs
      obtain ⟨hmap, hcalls⟩ := ih hothers (Nat.add_le_add_right hearly token.payload.length)
      intro calls
      have hcons : calls = _ := located_cons_of_found (by omega) hfound
      rw [hcons, List.map_cons, hmap]
      exact ⟨rfl, .cons ⟨found, hearly, rfl⟩ hcalls⟩

/-- **Tokens that can be placed in their source are found.** If payloads with text stand in the
source in their order and without overlap, a callback that always wants to go on is called for all
of their tokens, whatever the units, and every call has a range that holds its payload. In code
points no range starts behind the index at which its payload was placed. -/
theorem mapRanges_of_placed {ε : Type} {source : Text} {tokens : List Token} {indices : List Nat}
    (h : Token.Placed source 0 tokens indices) (htokens : ∀ token ∈ tokens, token.payload ≠ [])
    (units : OffsetUnits) :
    let calls := (mapRanges units .always () source tokens : Delivery Located ε).calls
    calls.map Located.token = tokens ∧
      (∀ call ∈ calls, call.range.isResolved = true ∧ call.Fits units source) ∧
      (units = .codePoint →
        List.Forall₂ (fun (call : Located) index => call.range.start ≤ (index : Nat)) calls
          indices) := by
  intro calls
  have hcalls : calls = _ := calls_mapRanges_always units source tokens
  obtain ⟨hmap, hfound⟩ := Place.foundBy_located units h htokens (Nat.le_refl 0)
  rw [← hcalls] at hmap hfound
  have hresolved : ∀ call ∈ calls, call.range.isResolved = true :=
    ((List.forall₂_and_left calls indices).mp (hfound.imp fun _ _ h => ⟨h.isResolved, h⟩)).1
  refine ⟨hmap, fun call hcall => ⟨hresolved call hcall, ?_⟩, ?_⟩
  · have hfits := (Place.sound_located units source htokens).fits call (hcalls ▸ hcall)
    refine hfits.resolve_left fun hlost => ?_
    have hcontra := hresolved call hcall
    rw [hlost] at hcontra
    cases hcontra
  · rintro rfl
    exact hfound.imp fun _ _ hcall => hcall.start_le

/-- The search may find payloads earlier than they are placed. -/
theorem mapRanges_of_placed_early :
    let source : Text := Text.of "ab ab"
    let tokens : List Token := [⟨.name, Text.of "a"⟩, ⟨.name, Text.of "b"⟩]
    let calls := (mapRanges .codePoint .always () source tokens : Delivery Located Empty).calls
    Token.Placed source 0 tokens [3, 4] ∧ (∀ token ∈ tokens, token.payload ≠ []) ∧
      calls.map Located.range = [⟨0, 1⟩, ⟨1, 1⟩] ∧
      List.Forall₂ (fun (call : Located) index => call.range.start ≤ (index : Nat)) calls
        [3, 4] := by
  intro source tokens calls
  have hplaced : Token.Placed source 0 tokens [3, 4] :=
    .cons (by decide) (by decide) (.cons (by decide) (by decide) .nil)
  have htokens : ∀ token ∈ tokens, token.payload ≠ [] := by decide
  exact ⟨hplaced, htokens, by decide, (mapRanges_of_placed hplaced htokens .codePoint).2.2 rfl⟩

end LexBridge
