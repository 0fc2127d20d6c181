import LexBridge.Proofs.Range.Locate

/-!
# The search by positions

The search for tokens keeps what is left of the source. Said with positions in the source, it looks
for each payload at the first index, from its position on, where the source goes on with that
payload; and its next position is behind it, or behind as many characters if there is no such index.

A place that belongs to a position knows its offset too: it is the size of what stands before the
position. So these places are all that the search ever comes to (`Place.locate_ofPosition_of_found`,
`Place.locate_ofPosition_of_lost`), and what the calls are can be said without mentioning what is
left.

## Main definitions

* `Text.OccursAt`: a text that stands at an index of a source.
* `Text.indexFrom?`: the first index, from a position on, at which a text stands.
* `Place.ofPosition`: the place of the search at a position of its source.

## Main results

* `Text.indexFrom?_eq_some_iff`, `Text.indexFrom?_eq_none_iff`: the first index, and none.
* `Place.located_cons_of_found`, `Place.located_cons_of_lost`: the calls from a position on.
-/

namespace LexBridge

/-! ### Indices -/

namespace Text

/-- Whether a text stands at an index of a source: as many characters of the source from there on
are the text. -/
def OccursAt (wanted source : Text) (index : Nat) : Prop :=
  (source.drop index).take wanted.length = wanted

/-- Texts can be compared. -/
instance decidable_occursAt (wanted source : Text) (index : Nat) :
    Decidable (wanted.OccursAt source index) :=
  inferInstanceAs (Decidable ((source.drop index).take wanted.length = wanted))

/-- The first index, from a position on, at which a text stands. -/
def indexFrom? (wanted source : Text) (position : Nat) : Option Nat :=
  (wanted.cut? (source.drop position)).map fun found => position + found.1.length

variable {wanted source before after : Text} {position index : Nat}

theorem occursAt_iff : wanted.OccursAt source index ↔ wanted <+: source.drop index := by
  rw [OccursAt, List.prefix_iff_eq_take, eq_comm]

theorem occursAt_zero_iff : wanted.OccursAt source 0 ↔ wanted <+: source := occursAt_iff

theorem occursAt_cons_succ_iff (c : CodePoint) :
    wanted.OccursAt (c :: source) (index + 1) ↔ wanted.OccursAt source index :=
  Iff.rfl

/-- An index in what is left of a source is an index of the source. -/
theorem occursAt_drop_iff :
    wanted.OccursAt (source.drop position) index ↔ wanted.OccursAt source (position + index) := by
  rw [OccursAt, OccursAt, List.drop_drop]

theorem occursAt_append (before wanted after : Text) :
    wanted.OccursAt (before ++ wanted ++ after) before.length := by
  rw [occursAt_iff, List.append_assoc, List.drop_left]
  exact List.prefix_append wanted after

/-- A text that is not empty ends in the source in which it stands. -/
theorem OccursAt.add_length_le (h : wanted.OccursAt source index) (hwanted : wanted ≠ []) :
    index + wanted.length ≤ source.length := by
  have hpos := List.length_pos_iff.mpr hwanted
  have hlength := (occursAt_iff.mp h).length_le
  rw [List.length_drop] at hlength
  omega

theorem exists_occursAt_iff : (∃ index, wanted.OccursAt source index) ↔ wanted <:+: source := by
  constructor
  · rintro ⟨index, h⟩
    exact (occursAt_iff.mp h).isInfix.trans (List.drop_suffix index source).isInfix
  · rintro ⟨before, after, rfl⟩
    exact ⟨before.length, occursAt_append before wanted after⟩

/-- A text is found at its first index. -/
theorem length_le_of_cut? :
    ∀ {source before after : Text} {index : Nat}, wanted.cut? source = some (before, after) →
      wanted.OccursAt source index → before.length ≤ index
  | [], before, after, index, h, _ => by
    have hsource := congrArg List.length (eq_append_of_cut? h)
    simp only [List.length_append, List.length_nil] at hsource
    omega
  | c :: rest, before, after, index, h, hindex => by
    rw [cut?] at h
    split at h
    · obtain ⟨rfl, -⟩ := Prod.mk.inj (Option.some.inj h)
      exact Nat.zero_le _
    · rename_i hstart
      obtain ⟨⟨before', after'⟩, hcut, heq⟩ := Option.map_eq_some_iff.mp h
      obtain ⟨rfl, rfl⟩ := Prod.mk.inj heq
      cases index with
      | zero => exact absurd (occursAt_zero_iff.mp hindex) (dropPrefix?_eq_none_iff.mp hstart)
      | succ index =>
        exact Nat.succ_le_succ (length_le_of_cut? hcut ((occursAt_cons_succ_iff c).mp hindex))

/-- **No index is found just if the text stands nowhere** from the position on. -/
theorem indexFrom?_eq_none_iff :
    wanted.indexFrom? source position = none ↔
      ∀ index, position ≤ index → ¬ wanted.OccursAt source index := by
  rw [indexFrom?, Option.map_eq_none_iff, cut?_eq_none_iff, ← exists_occursAt_iff, not_exists]
  constructor
  · intro h index hle hindex
    refine h (index - position) (occursAt_drop_iff.mpr ?_)
    rwa [Nat.add_sub_cancel' hle]
  · intro h index hindex
    exact h (position + index) (Nat.le_add_right _ _) (occursAt_drop_iff.mp hindex)

theorem indexFrom?_of_cut? (h : wanted.cut? (source.drop position) = some (before, after)) :
    wanted.indexFrom? source position = some (position + before.length) := by
  rw [indexFrom?, h, Option.map_some]

/-- **An index is found just if it is the first one** from the position on. -/
theorem indexFrom?_eq_some_iff :
    wanted.indexFrom? source position = some index ↔
      position ≤ index ∧ wanted.OccursAt source index ∧
        ∀ other, position ≤ other → wanted.OccursAt source other → index ≤ other := by
  rcases cut?_cases wanted (source.drop position) with ⟨before, after, hcut, hrest⟩ | ⟨hcut, -⟩
  · have hoccurs : wanted.OccursAt source (position + before.length) := by
      rw [← occursAt_drop_iff, hrest]
      exact occursAt_append before wanted after
    have hleast : ∀ other, position ≤ other → wanted.OccursAt source other →
        position + before.length ≤ other := by
      intro other hle hother
      rw [← Nat.add_sub_cancel' hle, ← occursAt_drop_iff] at hother
      have hlength := length_le_of_cut? hcut hother
      omega
    rw [indexFrom?_of_cut? hcut, Option.some_inj]
    constructor
    · rintro rfl
      exact ⟨Nat.le_add_right _ _, hoccurs, hleast⟩
    · rintro ⟨hle, hindex, hmin⟩
      exact Nat.le_antisymm (hleast _ hle hindex) (hmin _ (Nat.le_add_right _ _) hoccurs)
  · have hnone : wanted.indexFrom? source position = none := by
      rw [indexFrom?, hcut, Option.map_none]
    rw [hnone]
    refine iff_of_false (Option.some_ne_none _).symm ?_
    rintro ⟨hle, hindex, -⟩
    exact indexFrom?_eq_none_iff.mp hnone _ hle hindex

/-- A text that is found from a position in the source on ends in the source. -/
theorem add_length_le_of_indexFrom? (h : wanted.indexFrom? source position = some index)
    (hposition : position ≤ source.length) : index + wanted.length ≤ source.length := by
  obtain ⟨⟨before, after⟩, hcut, rfl⟩ := Option.map_eq_some_iff.mp h
  have hlength := congrArg List.length (eq_append_of_cut? hcut)
  simp only [List.length_drop, List.length_append] at hlength ⊢
  omega

end Text

/-! ### Sizes -/

namespace OffsetUnits

@[simp] theorem size_codePoint (text : Text) : codePoint.size text = text.length := by
  induction text with
  | nil => rfl
  | cons c text ih => rw [size_cons, ih, width, List.length_cons, Nat.add_comm]

/-- In code points an index of a text is its own offset. -/
theorem size_take_codePoint {text : Text} {index : Nat} (h : index ≤ text.length) :
    codePoint.size (text.take index) = index := by
  rw [size_codePoint, List.length_take_of_le h]

/-- What stands before an index is made up of what stands before a position and what follows it. -/
theorem size_take_add (units : OffsetUnits) (text : Text) (position count : Nat) :
    units.size (text.take (position + count)) =
      units.size (text.take position) + units.size ((text.drop position).take count) := by
  rw [List.take_add, units.size_append]

end OffsetUnits

/-! ### Places -/

namespace Place

/-- The place of the search at a position of its source. -/
def ofPosition (units : OffsetUnits) (source : Text) (position : Nat) : Place :=
  ⟨units.size (source.take position), source.drop position⟩

variable {units : OffsetUnits} {source payload : Text} {position index : Nat} {token : Token}
  {tokens : List Token}

theorem ofPosition_zero (units : OffsetUnits) (source : Text) :
    ofPosition units source 0 = ⟨0, source⟩ := rfl

theorem rest_ofPosition_eq_nil_iff :
    (ofPosition units source position).rest = [] ↔ source.length ≤ position :=
  List.drop_eq_nil_iff

/-- **A payload that is found** has its range at the index, and the search goes on behind it. -/
theorem locate_ofPosition_of_found (h : payload.indexFrom? source position = some index) :
    (ofPosition units source position).locate units payload =
      (⟨units.size (source.take index), units.size payload⟩,
        ofPosition units source (index + payload.length)) := by
  obtain ⟨⟨before, after⟩, hcut, rfl⟩ := Option.map_eq_some_iff.mp h
  have hrest : source.drop position = before ++ (payload ++ after) := by
    rw [Text.eq_append_of_cut? hcut, List.append_assoc]
  have hindex : (source.drop (position + before.length)) = payload ++ after := by
    rw [← List.drop_drop, hrest, List.drop_left]
  rw [locate_of_cut?_eq_some units hcut]
  simp only [ofPosition, units.size_take_add, hrest, hindex, List.take_left, ← List.drop_drop,
    List.drop_left]

/-- **A payload that is lost** has no range, and the search goes on behind as many characters. -/
theorem locate_ofPosition_of_lost (h : payload.indexFrom? source position = none) :
    (ofPosition units source position).locate units payload =
      (.unresolved, ofPosition units source (position + payload.length)) := by
  have hcut : payload.cut? (source.drop position) = none := Option.map_eq_none_iff.mp h
  rw [locate_of_cut?_eq_none units hcut]
  simp only [ofPosition, units.size_take_add, List.drop_drop]

/-! ### Calls -/

theorem located_of_length_le (h : source.length ≤ position) (tokens : List Token) :
    (ofPosition units source position).located units tokens = [] :=
  located_of_rest_eq_nil (rest_ofPosition_eq_nil_iff.mpr h) tokens

theorem located_cons_of_found (hposition : position < source.length)
    (h : token.payload.indexFrom? source position = some index) :
    (ofPosition units source position).located units (token :: tokens) =
      ⟨⟨units.size (source.take index), units.size token.payload⟩, token⟩ ::
        (ofPosition units source (index + token.payload.length)).located units tokens := by
  rw [located_cons (mt rest_ofPosition_eq_nil_iff.mp (Nat.not_le.mpr hposition)),
    locate_ofPosition_of_found h]

theorem located_cons_of_lost (hposition : position < source.length)
    (h : token.payload.indexFrom? source position = none) :
    (ofPosition units source position).located units (token :: tokens) =
      ⟨.unresolved, token⟩ ::
        (ofPosition units source (position + token.payload.length)).located units tokens := by
  rw [located_cons (mt rest_ofPosition_eq_nil_iff.mp (Nat.not_le.mpr hposition)),
    locate_ofPosition_of_lost h]

end Place

/-- Any callback takes its calls from those for the position zero. -/
theorem mapRanges_eq_consume {σ ε : Type} (units : OffsetUnits) (callback : Callback σ Located ε)
    (state : σ) (source : Text) (tokens : List Token) :
    mapRanges units callback state source tokens =
      callback.consume state ((Place.ofPosition units source 0).located units tokens) := by
  rw [mapRanges, Place.ofPosition_zero, deliver_eq_consume]

/-- A callback that always wants to go on gets all calls. -/
theorem calls_mapRanges_always {ε : Type} (units : OffsetUnits) (source : Text)
    (tokens : List Token) :
    (mapRanges units .always () source tokens : Delivery Located ε).calls =
      (Place.ofPosition units source 0).located units tokens := by
  rw [mapRanges_eq_consume, Callback.consume_always]

end LexBridge
