import LexBridge.Proofs.Range.Locate

/-!
# Ranges are sound

Whatever tokens are looked for in a source, every range that is reported stands for its payload, and
ranges never go back. This asks nothing of the tokens but that they have text.

The search keeps the rest of the source with the offset where that begins. The invariant is that
these two go together (`Place.Within`): what has been passed and what is left make up the source,
and the offset is the size of what has been passed. Both outcomes of a search keep it, and both
leave less of the source than there was.

## Main definitions

* `Place.Within`: a place that the search in a source may come to.
* `Located.Fits`: a call whose range holds its payload.
* `Located.Sound`: what holds of all calls for one source together.

## Main results

* `Place.Within.locate`: the invariant.
* `Place.sound_located`: the calls for tokens with text are sound.
-/

namespace LexBridge

/-! ### Places in a source -/

/-- A place that the search in a source may come to: what has been passed and what is left make up
the source, and the offset is the size of what has been passed. -/
def Place.Within (units : OffsetUnits) (source : Text) (place : Place) : Prop :=
  ∃ passed, source = passed ++ place.rest ∧ place.offset = units.size passed

namespace Place

variable {units : OffsetUnits} {source payload : Text} {place next : Place} {range : Range}

theorem within_start (units : OffsetUnits) (source : Text) :
    (⟨0, source⟩ : Place).Within units source :=
  ⟨[], rfl, rfl⟩

/-- **A search leads from a place in the source to a place in the source**, whether or not the
payload is found. -/
theorem Within.locate (h : place.Within units source)
    (hlocate : place.locate units payload = (range, next)) : next.Within units source := by
  obtain ⟨passed, hsource, hoffset⟩ := h
  rcases locate_cases hlocate with ⟨before, after, -, hrest, -, rfl⟩ | ⟨-, -, rfl⟩
  · refine ⟨passed ++ (before ++ payload), ?_, ?_⟩
    · rw [hsource, hrest, List.append_assoc passed]
    · simp only [hoffset, units.size_append, Nat.add_assoc]
  · refine ⟨passed ++ place.rest.take payload.length, ?_, ?_⟩
    · rw [hsource, List.append_assoc, List.take_append_drop]
    · simp only [hoffset, units.size_append]

/-- The search never moves back. -/
theorem offset_le_of_locate (hlocate : place.locate units payload = (range, next)) :
    place.offset ≤ next.offset := by
  rcases locate_cases hlocate with ⟨before, after, -, -, -, rfl⟩ | ⟨-, -, rfl⟩
  · exact Nat.le_trans (Nat.le_add_right _ _) (Nat.le_add_right _ _)
  · exact Nat.le_add_right _ _

/-- A search for a payload with text uses up some of the source. -/
theorem length_rest_lt_of_locate (hlocate : place.locate units payload = (range, next))
    (hpayload : payload ≠ []) (hrest : place.rest ≠ []) :
    next.rest.length < place.rest.length := by
  have hpos : 0 < payload.length := List.length_pos_iff.mpr hpayload
  have hleft : 0 < place.rest.length := List.length_pos_iff.mpr hrest
  rcases locate_cases hlocate with ⟨before, after, -, hfound, -, rfl⟩ | ⟨-, -, rfl⟩
  · have hlength := congrArg List.length hfound
    simp only [List.length_append] at hlength ⊢
    omega
  · simp only [List.length_drop]
    omega

end Place

/-! ### Single calls -/

/-- A call whose range lies in the source and holds its payload. -/
structure Located.Fits (units : OffsetUnits) (source : Text) (call : Located) : Prop where
  slice_eq : call.range.slice (units.encode source) = units.encode call.token.payload
  start_nonneg : 0 ≤ call.range.start
  stop_le : call.range.stop ≤ units.size source

/-- A range that holds a payload with text is as long as the payload. -/
theorem Located.Fits.length_eq {units : OffsetUnits} {source : Text} {call : Located}
    (h : call.Fits units source) (hpayload : call.token.payload ≠ []) :
    call.range.length = units.size call.token.payload := by
  have hpos := units.size_pos hpayload
  have hstart := h.start_nonneg
  have hstop := h.stop_le
  have hlength := congrArg List.length h.slice_eq
  rw [Range.slice, List.length_take, List.length_drop, units.length_encode,
    units.length_encode] at hlength
  rw [Range.stop] at hstop
  omega

theorem Located.Fits.start_lt_stop {units : OffsetUnits} {source : Text} {call : Located}
    (h : call.Fits units source) (hpayload : call.token.payload ≠ []) :
    call.range.start < call.range.stop := by
  have hpos := units.size_pos hpayload
  rw [Range.stop, h.length_eq hpayload]
  omega

/-- **A token is not found, or its range lies between two places**, those before and behind the
search for it. -/
theorem Place.Within.fits_of_locate {units : OffsetUnits} {source : Text} {place next : Place}
    {token : Token} {range : Range} (h : place.Within units source)
    (hlocate : place.locate units token.payload = (range, next)) :
    range = .unresolved ∨
      Located.Fits units source ⟨range, token⟩ ∧ (place.offset : Int) ≤ range.start ∧
        range.stop = next.offset := by
  obtain ⟨passed, hsource, hoffset⟩ := h
  rcases locate_cases hlocate with ⟨before, after, -, hrest, rfl, rfl⟩ | ⟨-, rfl, -⟩
  · right
    have hwhole : source = (passed ++ before) ++ token.payload ++ after := by
      rw [hsource, hrest]
      simp only [List.append_assoc]
    have hsize : units.size source =
        units.size passed + units.size before + units.size token.payload + units.size after := by
      rw [hwhole, units.size_append, units.size_append, units.size_append]
    rw [hoffset]
    refine ⟨⟨?_, Int.natCast_nonneg _, ?_⟩, ?_, ?_⟩
    · rw [hwhole, ← units.size_append]
      exact Range.slice_encode units (passed ++ before) token.payload after
    · simp only [Range.stop, hsize]
      omega
    · simp only
      omega
    · simp only [Range.stop]
      omega
  · exact Or.inl rfl

/-! ### All calls -/

/-- Calls that are right for a source: their tokens have text; each of them is either unresolved or
has a range that holds its payload; the ranges stand one after the other, whatever is unresolved
between them; and there are no more calls than characters. -/
structure Located.Sound (units : OffsetUnits) (source : Text) (calls : List Located) : Prop where
  payload_ne_nil : ∀ call ∈ calls, call.token.payload ≠ []
  fits : ∀ call ∈ calls, call.range = .unresolved ∨ call.Fits units source
  ascending : calls.Pairwise fun a b => a.range.isResolved → b.range.isResolved →
    a.range.start < b.range.start ∧ a.range.stop ≤ b.range.start
  length_le : calls.length ≤ source.length

theorem Located.sound_nil (units : OffsetUnits) (source : Text) :
    Located.Sound units source [] :=
  ⟨nofun, nofun, .nil, Nat.zero_le _⟩

namespace Place

variable {units : OffsetUnits} {source : Text} {place : Place} {tokens : List Token}

theorem payload_ne_nil_of_mem_located (htokens : ∀ token ∈ tokens, token.payload ≠ [])
    {call : Located} (hcall : call ∈ place.located units tokens) : call.token.payload ≠ [] :=
  htokens _ ((map_token_located_isPrefix units place tokens).subset
    (List.mem_map.mpr ⟨call, hcall, rfl⟩))

/-- Every call is unresolved or fits, and no range begins before the place where the search does. -/
theorem Within.fits_of_mem_located (h : place.Within units source) {call : Located}
    (hcall : call ∈ place.located units tokens) :
    call.range = .unresolved ∨
      call.Fits units source ∧ (place.offset : Int) ≤ call.range.start := by
  fun_induction located units place tokens with
  | case1 place => exact absurd hcall List.not_mem_nil
  | case2 place token tokens hrest => exact absurd hcall List.not_mem_nil
  | case3 place token tokens hrest range next hlocate ih =>
    rcases List.mem_cons.mp hcall with rfl | hlater
    · rcases h.fits_of_locate hlocate with hlost | ⟨hfits, hstart, -⟩
      · exact Or.inl hlost
      · exact Or.inr ⟨hfits, hstart⟩
    · have hoffset := offset_le_of_locate hlocate
      rcases ih (h.locate hlocate) hlater with hlost | ⟨hfits, hstart⟩
      · exact Or.inl hlost
      · exact Or.inr ⟨hfits, Int.le_trans (Int.ofNat_le.mpr hoffset) hstart⟩

/-- A resolved range stops at or before every resolved range that comes later. -/
theorem Within.pairwise_located (h : place.Within units source)
    (htokens : ∀ token ∈ tokens, token.payload ≠ []) :
    (place.located units tokens).Pairwise fun a b => a.range.isResolved → b.range.isResolved →
      a.range.start < b.range.start ∧ a.range.stop ≤ b.range.start := by
  fun_induction located units place tokens with
  | case1 place => exact .nil
  | case2 place token tokens hrest => exact .nil
  | case3 place token tokens hrest range next hlocate ih =>
    obtain ⟨htoken, hothers⟩ := List.forall_mem_cons.mp htokens
    refine List.pairwise_cons.mpr
      ⟨fun call hcall hfirst hlater => ?_, ih (h.locate hlocate) hothers⟩
    rcases h.fits_of_locate hlocate with rfl | ⟨hfits, -, hstop⟩
    · exact absurd hfirst Bool.false_ne_true
    rcases (h.locate hlocate).fits_of_mem_located hcall with hlost | ⟨-, hstart⟩
    · rw [hlost] at hlater
      exact absurd hlater Bool.false_ne_true
    have hle := Int.le_trans (Int.le_of_eq hstop) hstart
    exact ⟨Int.lt_of_lt_of_le (hfits.start_lt_stop htoken) hle, hle⟩

/-- There are no more calls than characters that are left of the source. -/
theorem length_located_le (htokens : ∀ token ∈ tokens, token.payload ≠ []) :
    (place.located units tokens).length ≤ place.rest.length := by
  fun_induction located units place tokens with
  | case1 place => exact Nat.zero_le _
  | case2 place token tokens hrest => exact Nat.zero_le _
  | case3 place token tokens hrest range next hlocate ih =>
    obtain ⟨htoken, hothers⟩ := List.forall_mem_cons.mp htokens
    rw [List.length_cons]
    exact Nat.lt_of_le_of_lt (ih hothers) (length_rest_lt_of_locate hlocate htoken hrest)

/-- **The calls for tokens with text are sound**, whatever the tokens are. -/
theorem sound_located (units : OffsetUnits) (source : Text)
    (htokens : ∀ token ∈ tokens, token.payload ≠ []) :
    Located.Sound units source ((⟨0, source⟩ : Place).located units tokens) where
  payload_ne_nil _ hcall := payload_ne_nil_of_mem_located htokens hcall
  fits _ hcall := ((within_start units source).fits_of_mem_located hcall).imp_right And.left
  ascending := (within_start units source).pairwise_located htokens
  length_le := length_located_le htokens

end Place

end LexBridge
