import LexBridge.Proofs.Range.Position

/-!
# Garbled tokens of the right length

A token whose payload the tool has garbled is not found, and the search skips as many characters as
the payload has. If the payload has kept its length, this is just the text that it should have been,
and the search is in step again: the tokens behind it are found where they would have been found
otherwise.

The *offset* of a token is the number of characters of the tokens before it. Tokens keep step with
a source if each payload stands at its offset, or nowhere from its offset on. Then the position of
the search is the offset of the token whose turn it is, and so what becomes of a token depends on
its own payload and its offset alone.

## Main definitions

* `Token.withOffsets`: tokens with their offsets.
* `Token.KeepsStep`: a payload that stands at its offset or is lost.
* `Located.ofOffset`: the call for a token that keeps step.

## Main results

* `Place.located_of_keepsStep`: the calls for tokens that keep step.
* `mapRanges_of_keepsStep`: a garbled token shifts no other one.
-/

namespace LexBridge

namespace Token

/-- Tokens with their offsets, the numbers of characters before them, counted on from a start. -/
def withOffsets : (start : Nat) → List Token → List (Nat × Token)
  | _, [] => []
  | start, token :: tokens => (start, token) :: withOffsets (start + token.payload.length) tokens

/-- Whether a token with its offset keeps step with a source: its payload stands at the offset, or
nowhere from there on. -/
def KeepsStep (source : Text) (entry : Nat × Token) : Prop :=
  entry.2.payload.OccursAt source entry.1 ∨
    ∀ index, entry.1 ≤ index → ¬ entry.2.payload.OccursAt source index

theorem le_of_mem_withOffsets {start : Nat} {tokens : List Token} {entry : Nat × Token}
    (h : entry ∈ withOffsets start tokens) : start ≤ entry.1 := by
  induction tokens generalizing start with
  | nil => cases h
  | cons token tokens ih =>
    rcases List.mem_cons.mp h with rfl | hlater
    · exact Nat.le_refl _
    · exact Nat.le_trans (Nat.le_add_right _ _) (ih hlater)

end Token

/-- The call for a token that keeps step: its range is at its offset if the payload stands there. -/
def Located.ofOffset (units : OffsetUnits) (source : Text) (entry : Nat × Token) : Located :=
  ⟨if entry.2.payload.OccursAt source entry.1 then
      ⟨units.size (source.take entry.1), units.size entry.2.payload⟩
    else .unresolved, entry.2⟩

/-- **The calls for tokens that keep step** are for those whose offset is in the source, each at its
offset or unresolved. -/
theorem Place.located_of_keepsStep (units : OffsetUnits) {source : Text} {tokens : List Token}
    {start : Nat} (h : ∀ entry ∈ Token.withOffsets start tokens, Token.KeepsStep source entry) :
    (ofPosition units source start).located units tokens =
      ((Token.withOffsets start tokens).filter fun entry => entry.1 < source.length).map
        (Located.ofOffset units source) := by
  induction tokens generalizing start with
  | nil => rfl
  | cons token tokens ih =>
    by_cases hstart : source.length ≤ start
    · -- the source is at its end, and all later offsets are behind it
      have hnone : (Token.withOffsets start (token :: tokens)).filter
          (fun entry => entry.1 < source.length) = [] := by
        refine List.filter_eq_nil_iff.mpr fun entry hentry => ?_
        have hle := Token.le_of_mem_withOffsets hentry
        rw [decide_eq_true_iff]
        omega
      rw [located_of_length_le hstart, hnone, List.map_nil]
    · obtain ⟨htoken, hothers⟩ := List.forall_mem_cons.mp h
      have hlt := Nat.lt_of_not_le hstart
      rw [Token.withOffsets, List.filter_cons, if_pos (decide_eq_true hlt), List.map_cons,
        ← ih hothers]
      rcases htoken with hoccurs | hlost
      · have hfound : token.payload.indexFrom? source start = some start :=
          Text.indexFrom?_eq_some_iff.mpr ⟨Nat.le_refl _, hoccurs, fun _ hle _ => hle⟩
        rw [located_cons_of_found hlt hfound, Located.ofOffset, if_pos hoccurs]
      · rw [located_cons_of_lost hlt (Text.indexFrom?_eq_none_iff.mpr hlost), Located.ofOffset,
          if_neg (hlost start (Nat.le_refl _))]

/-- **A garbled token of the right length shifts no other one.** If every payload stands at the
offset of its token or nowhere from there on, then a callback that always wants to go on is called
for exactly the tokens whose offset is in the source, whatever the units. In code points each of
them has its range at its offset if the payload stands there, and is unresolved if it does not. -/
theorem mapRanges_of_keepsStep {ε : Type} {source : Text} {tokens : List Token}
    (h : ∀ entry ∈ Token.withOffsets 0 tokens, Token.KeepsStep source entry) :
    let visited := (Token.withOffsets 0 tokens).filter fun entry => entry.1 < source.length
    let calls units := (mapRanges units .always () source tokens : Delivery Located ε).calls
    (∀ units, (calls units).map Located.token = visited.map Prod.snd) ∧
      calls .codePoint = visited.map fun entry =>
        ⟨if entry.2.payload.OccursAt source entry.1 then ⟨entry.1, entry.2.payload.length⟩
          else .unresolved, entry.2⟩ := by
  intro visited calls
  have hcalls : ∀ units, calls units = visited.map (Located.ofOffset units source) := fun units =>
    (calls_mapRanges_always units source tokens).trans (Place.located_of_keepsStep units h)
  refine ⟨fun units => ?_, ?_⟩
  · rw [hcalls, List.map_map]
    rfl
  · rw [hcalls]
    refine List.map_congr_left fun entry hentry => ?_
    have hlt := of_decide_eq_true (List.mem_filter.mp hentry).2
    rw [Located.ofOffset, OffsetUnits.size_take_codePoint (Nat.le_of_lt hlt),
      OffsetUnits.size_codePoint]

/-- A garbled token, a payload that recurs, an empty one, one that reaches behind the source, and
one that comes too late. -/
theorem mapRanges_of_keepsStep_garbled :
    let source : Text := Text.of "abcabc"
    let tokens : List Token := [⟨.name, Text.of "ab"⟩, ⟨.name, Text.of "x"⟩,
      ⟨.name, Text.of "ab"⟩, ⟨.text, []⟩, ⟨.name, Text.of "c "⟩, ⟨.name, Text.of "a"⟩]
    let calls := (mapRanges .codePoint .always () source tokens : Delivery Located Empty).calls
    (∀ entry ∈ Token.withOffsets 0 tokens, Token.KeepsStep source entry) ∧
      calls.map Located.range = [⟨0, 2⟩, .unresolved, ⟨3, 2⟩, ⟨5, 0⟩, .unresolved] := by
  intro source tokens calls
  have hsteps : ∀ entry ∈ Token.withOffsets 0 tokens, Token.KeepsStep source entry := by
    refine List.forall_mem_cons.mpr ⟨.inl (by decide), ?_⟩
    refine List.forall_mem_cons.mpr ⟨.inr (Text.indexFrom?_eq_none_iff.mp (by decide)), ?_⟩
    refine List.forall_mem_cons.mpr ⟨.inl (by decide), ?_⟩
    refine List.forall_mem_cons.mpr ⟨.inl (by decide), ?_⟩
    refine List.forall_mem_cons.mpr ⟨.inr (Text.indexFrom?_eq_none_iff.mp (by decide)), ?_⟩
    exact List.forall_mem_singleton.mpr (.inr (Text.indexFrom?_eq_none_iff.mp (by decide)))
  refine ⟨hsteps, ?_⟩
  have hcalls : calls = _ := (mapRanges_of_keepsStep hsteps).2
  rw [hcalls]
  decide

end LexBridge
