import LexBridge.Proofs.Range.Position

/-!
# The search with a cursor

Offsets can also be counted on while the search goes along the source. A cursor keeps the position
where the search goes on, and besides the index where the last payload was found, together with the
offset of that index. When the next payload is found, only what stands between the two indices is
counted. Nothing is counted for payloads that are lost, and nothing at all in code points, where an
index is its own offset.

The two searches are the same. What a cursor keeps is tied to the source by an invariant: its index
is not behind its position, and its offset is the size of what stands before its index
(`Cursor.Counts`). Under the invariant both find the same ranges, and so any callback gets the same
calls of them.

## Main definitions

* `Cursor`, `Cursor.locate`: what is kept, and the search for one payload.
* `Cursor.deliver`, `Cursor.mapRanges`: all tokens, from a cursor on and from the beginning.
* `Cursor.Counts`: the invariant.

## Main results

* `Cursor.locate_eq`: one search keeps the invariant and finds the same range.
* `Cursor.mapRanges_eq`: both searches make the same calls.
-/

namespace LexBridge

/-- The position where a search goes on, the index where its last payload was found, and the offset
of that index. -/
structure Cursor where
  position : Nat
  found : Nat
  offset : Nat

namespace Cursor

/-- The cursor at the beginning of a source. -/
def start : Cursor := ⟨0, 0, 0⟩

/-- Looks for a payload from a cursor on: its range, and the cursor behind it. -/
def locate (units : OffsetUnits) (source : Text) (cursor : Cursor) (payload : Text) :
    Range × Cursor :=
  match payload.indexFrom? source cursor.position, units with
  | none, _ => (.unresolved, { cursor with position := cursor.position + payload.length })
  | some index, .utf16 =>
    let skipped := (source.drop cursor.found).take (index - cursor.found)
    let offset := cursor.offset + OffsetUnits.utf16.size skipped
    (⟨offset, OffsetUnits.utf16.size payload⟩, ⟨index + payload.length, index, offset⟩)
  | some index, .codePoint =>
    (⟨index, payload.length⟩, { cursor with position := index + payload.length })

variable {σ ε : Type}

/-- Locates tokens from a cursor on and calls back for each of them, as long as the callback goes on
and the position is in the source. -/
def deliver (units : OffsetUnits) (callback : Callback σ Located ε) (source : Text) :
    σ → Cursor → List Token → Delivery Located ε
  | _, _, [] => ⟨[], none⟩
  | state, cursor, token :: tokens =>
    if source.length ≤ cursor.position then ⟨[], none⟩
    else
      let (range, next) := cursor.locate units source token.payload
      callback.offer state ⟨range, token⟩ fun state =>
        deliver units callback source state next tokens

/-- Locates the tokens of a source with a cursor and calls back for each of them. -/
def mapRanges (units : OffsetUnits) (callback : Callback σ Located ε) (state : σ) (source : Text)
    (tokens : List Token) : Delivery Located ε :=
  deliver units callback source state start tokens

/-- What a cursor keeps is right for a source: the last payload was not found behind the position,
and its offset is the size of what stands before it. In code points no offset is kept. -/
structure Counts (units : OffsetUnits) (source : Text) (cursor : Cursor) : Prop where
  found_le : cursor.found ≤ cursor.position
  offset_eq : units = .utf16 → cursor.offset = OffsetUnits.utf16.size (source.take cursor.found)

theorem counts_start (units : OffsetUnits) (source : Text) : start.Counts units source :=
  ⟨Nat.le_refl _, fun _ => rfl⟩

variable {units : OffsetUnits} {source : Text} {cursor : Cursor}

/-- **One search with a cursor keeps the invariant**, finds the range that the search by positions
finds, and goes on at the same position. -/
theorem locate_eq (h : cursor.Counts units source) (hposition : cursor.position ≤ source.length)
    (payload : Text) :
    ∃ range next, cursor.locate units source payload = (range, next) ∧
      (Place.ofPosition units source cursor.position).locate units payload =
        (range, Place.ofPosition units source next.position) ∧
      next.Counts units source := by
  cases hindex : payload.indexFrom? source cursor.position with
  | none =>
    refine ⟨_, { cursor with position := cursor.position + payload.length }, ?_,
      Place.locate_ofPosition_of_lost hindex, ?_, h.offset_eq⟩
    · simp only [locate, hindex]
    · exact Nat.le_trans h.found_le (Nat.le_add_right _ _)
  | some index =>
    obtain ⟨hle, -, -⟩ := Text.indexFrom?_eq_some_iff.mp hindex
    have hlength := Text.add_length_le_of_indexFrom? hindex hposition
    cases units with
    | utf16 =>
      have hoffset : cursor.offset + OffsetUnits.utf16.size
          ((source.drop cursor.found).take (index - cursor.found)) =
            OffsetUnits.utf16.size (source.take index) := by
        rw [h.offset_eq rfl, ← OffsetUnits.size_take_add,
          Nat.add_sub_cancel' (Nat.le_trans h.found_le hle)]
      refine ⟨_, ⟨index + payload.length, index, OffsetUnits.utf16.size (source.take index)⟩, ?_,
        Place.locate_ofPosition_of_found hindex, ?_, fun _ => rfl⟩
      · simp only [locate, hindex, hoffset]
      · exact Nat.le_add_right _ _
    | codePoint =>
      refine ⟨_, { cursor with position := index + payload.length }, ?_,
        Place.locate_ofPosition_of_found hindex, ?_, nofun⟩
      · rw [OffsetUnits.size_take_codePoint (Nat.le_trans (Nat.le_add_right _ _) hlength),
          OffsetUnits.size_codePoint]
        simp only [locate, hindex]
      · exact Nat.le_trans h.found_le (Nat.le_trans hle (Nat.le_add_right _ _))

/-- From a cursor on, both searches make the same calls. -/
theorem deliver_eq (callback : Callback σ Located ε) (tokens : List Token) (state : σ)
    (h : cursor.Counts units source) :
    deliver units callback source state cursor tokens =
      LexBridge.deliver units callback state (Place.ofPosition units source cursor.position)
        tokens := by
  induction tokens generalizing state cursor with
  | nil => rfl
  | cons token tokens ih =>
    by_cases hposition : source.length ≤ cursor.position
    · rw [deliver, if_pos hposition, LexBridge.deliver,
        if_pos (Place.rest_ofPosition_eq_nil_iff.mpr hposition)]
    · obtain ⟨range, next, hcursor, hplace, hnext⟩ :=
        locate_eq h (Nat.le_of_not_le hposition) token.payload
      rw [deliver, if_neg hposition, LexBridge.deliver,
        if_neg (mt Place.rest_ofPosition_eq_nil_iff.mp hposition)]
      simp only [hcursor, hplace]
      exact congrArg (callback.offer state _) (funext fun state => ih state hnext)

/-- **Any callback gets the same calls** whether offsets are counted on or taken from the place of
the search. -/
theorem mapRanges_eq (units : OffsetUnits) (callback : Callback σ Located ε) (state : σ)
    (source : Text) (tokens : List Token) :
    mapRanges units callback state source tokens =
      LexBridge.mapRanges units callback state source tokens :=
  deliver_eq callback tokens state (counts_start units source)

end Cursor

end LexBridge
