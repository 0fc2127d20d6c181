import LexBridge.Proofs.Text.Cutting
import LexBridge.Range.Locate

/-!
# The search for tokens

What the search for one payload comes to, and the calls that a callback gets which always wants to
go on. Any other callback gets the beginning of these calls, so this one list says what the search
finds.

A *unit* is what offsets count: a code unit of UTF-16 or a code point. Both are written one code
point after the other, and so offsets add up where texts are put together.

## Main definitions

* `OffsetUnits.encode`: a text in the units that offsets count.
* `Range.slice`: the units in a range.
* `Place.located`: the calls for tokens, as long as all of them are made.

## Main results

* `Text.cut?_eq_none_iff`, `Text.eq_append_of_cut?`: what it means that a text is not found, and
  where it is found.
* `Place.locate_cases`: everything that the search for one payload may do.
* `deliver_eq_consume`: any callback takes its calls from one list.
-/

namespace LexBridge

/-! ### Occurrences -/

namespace Text

/-- A text is found at once where it begins. -/
theorem cut?_append (wanted after : Text) : cut? wanted (wanted ++ after) = some ([], after) := by
  cases h : wanted ++ after with
  | nil =>
    obtain ⟨rfl, rfl⟩ := List.append_eq_nil_iff.mp h
    rfl
  | cons c rest => rw [cut?, ← h, dropPrefix?_eq_some_iff.mpr rfl]

theorem eq_append_of_cut? {wanted before after : Text} :
    ∀ {text : Text}, cut? wanted text = some (before, after) → text = before ++ wanted ++ after
  | [], h => by
    rw [cut?] at h
    split at h
    · rename_i hw
      obtain ⟨rfl, rfl⟩ : [] = before ∧ [] = after := by simpa using h
      simp [hw]
    · simp at h
  | c :: rest, h => by
    rw [cut?] at h
    split at h
    · rename_i found hfound
      obtain ⟨rfl, rfl⟩ : [] = before ∧ found = after := by simpa using h
      rw [List.nil_append, ← dropPrefix?_eq_some_iff.mp hfound]
    · obtain ⟨⟨before', after'⟩, hcut, heq⟩ := Option.map_eq_some_iff.mp h
      obtain ⟨rfl, rfl⟩ : c :: before' = before ∧ after' = after := by simpa using heq
      rw [eq_append_of_cut? hcut]
      rfl

/-- A text is not found just if it does not occur. -/
theorem cut?_eq_none_iff {wanted : Text} :
    ∀ {text : Text}, cut? wanted text = none ↔ ¬ wanted <:+: text
  | [] => by
    rw [cut?, List.infix_nil]
    split <;> simp_all
  | c :: rest => by
    rw [List.infix_cons_iff, not_or, ← dropPrefix?_eq_none_iff, ← cut?_eq_none_iff, cut?]
    split <;> simp_all

/-- A text is found where it begins, or nowhere. -/
theorem cut?_cases (wanted text : Text) :
    (∃ before after, cut? wanted text = some (before, after) ∧ text = before ++ wanted ++ after) ∨
      cut? wanted text = none ∧ ¬ wanted <:+: text := by
  cases h : cut? wanted text with
  | none => exact Or.inr ⟨rfl, cut?_eq_none_iff.mp h⟩
  | some found => exact Or.inl ⟨found.1, found.2, rfl, eq_append_of_cut? h⟩

end Text

/-! ### Units -/

namespace OffsetUnits

/-- What one unit of offsets is: a code unit of UTF-16, or a code point. -/
def CodeUnit : OffsetUnits → Type
  | utf16 => UInt16
  | codePoint => CodePoint

/-- A text in the units that offsets count. -/
def encode : (units : OffsetUnits) → Text → List units.CodeUnit
  | utf16, text => Utf16.encode text
  | codePoint, text => text

variable (units : OffsetUnits)

theorem encode_append (a b : Text) : units.encode (a ++ b) = units.encode a ++ units.encode b := by
  cases units with
  | utf16 => exact List.flatMap_append
  | codePoint => rfl

@[simp] theorem size_nil : units.size [] = 0 := rfl

@[simp] theorem size_cons (c : CodePoint) (text : Text) :
    units.size (c :: text) = units.width c + units.size text := rfl

@[simp] theorem size_append (a b : Text) : units.size (a ++ b) = units.size a + units.size b := by
  induction a with
  | nil => rw [List.nil_append, size_nil, Nat.zero_add]
  | cons c a ih => rw [List.cons_append, size_cons, size_cons, ih, Nat.add_assoc]

/-- Offsets count the units in which a text is written. -/
@[simp] theorem length_encode (text : Text) : (units.encode text).length = units.size text := by
  induction text with
  | nil => cases units <;> rfl
  | cons c text ih =>
    rw [size_cons, ← ih]
    cases units with
    | utf16 => exact List.length_append
    | codePoint => exact Nat.add_comm _ _

theorem width_pos (c : CodePoint) : 0 < units.width c := by
  cases units with
  | utf16 =>
    rw [width, Utf16.encodeOne]
    split <;> simp
  | codePoint => exact Nat.one_pos

theorem size_pos {text : Text} (h : text ≠ []) : 0 < units.size text := by
  cases text with
  | nil => exact absurd rfl h
  | cons c text =>
    rw [size_cons]
    exact Nat.add_pos_left (units.width_pos c) _

end OffsetUnits

namespace Range

/-- The units that stand in a range. -/
def slice {α : Type} (range : Range) (units : List α) : List α :=
  (units.drop range.start.toNat).take range.length.toNat

theorem isResolved_of_nonneg {range : Range} (h : 0 ≤ range.start) : range.isResolved = true := by
  rw [isResolved, decide_eq_true_iff, nowhere]
  omega

/-- The range of a text holds the text. -/
theorem slice_encode (units : OffsetUnits) (before text after : Text) :
    slice ⟨units.size before, units.size text⟩ (units.encode (before ++ text ++ after)) =
      units.encode text := by
  rw [slice, Int.toNat_natCast, Int.toNat_natCast, units.encode_append, units.encode_append,
    List.append_assoc, ← units.length_encode before, List.drop_left, ← units.length_encode text,
    List.take_left]

end Range

/-! ### One search -/

namespace Place

theorem locate_of_cut?_eq_some (units : OffsetUnits) {place : Place}
    {payload before after : Text} (h : payload.cut? place.rest = some (before, after)) :
    place.locate units payload =
      (⟨↑(place.offset + units.size before), ↑(units.size payload)⟩,
        ⟨place.offset + units.size before + units.size payload, after⟩) := by
  simp only [locate, h]

theorem locate_of_cut?_eq_none (units : OffsetUnits) {place : Place} {payload : Text}
    (h : payload.cut? place.rest = none) :
    place.locate units payload =
      (.unresolved, ⟨place.offset + units.size (place.rest.take payload.length),
        place.rest.drop payload.length⟩) := by
  simp only [locate, h]

/-- **A payload is found where it first occurs, or it does not occur** in what is left of the
source. Either way the search goes on behind as many characters as the payload has. -/
theorem locate_cases {units : OffsetUnits} {place next : Place} {payload : Text} {range : Range}
    (h : place.locate units payload = (range, next)) :
    (∃ before after, payload.cut? place.rest = some (before, after) ∧
        place.rest = before ++ payload ++ after ∧
        range = ⟨↑(place.offset + units.size before), ↑(units.size payload)⟩ ∧
        next = ⟨place.offset + units.size before + units.size payload, after⟩) ∨
      ¬ payload <:+: place.rest ∧ range = .unresolved ∧
        next = ⟨place.offset + units.size (place.rest.take payload.length),
          place.rest.drop payload.length⟩ := by
  rcases payload.cut?_cases place.rest with ⟨before, after, hcut, hrest⟩ | ⟨hcut, hlost⟩
  · rw [locate_of_cut?_eq_some units hcut] at h
    obtain ⟨rfl, rfl⟩ := Prod.mk.inj h
    exact Or.inl ⟨before, after, hcut, hrest, rfl, rfl⟩
  · rw [locate_of_cut?_eq_none units hcut] at h
    obtain ⟨rfl, rfl⟩ := Prod.mk.inj h
    exact Or.inr ⟨hlost, rfl, rfl⟩

/-- A payload with which the rest of the source begins is found at once. -/
theorem locate_append (units : OffsetUnits) (offset : Nat) (payload after : Text) :
    (⟨offset, payload ++ after⟩ : Place).locate units payload =
      (⟨offset, units.size payload⟩, ⟨offset + units.size payload, after⟩) := by
  rw [locate_of_cut?_eq_some units (Text.cut?_append payload after), units.size_nil, Nat.add_zero]

/-- A payload that is longer than the rest of the source is not found, and nothing is left. -/
theorem locate_of_length_lt (units : OffsetUnits) {place : Place} {payload : Text}
    (h : place.rest.length < payload.length) :
    place.locate units payload = (.unresolved, ⟨place.offset + units.size place.rest, []⟩) := by
  rcases hlocate : place.locate units payload with ⟨range, next⟩
  rcases locate_cases hlocate with ⟨before, after, -, hrest, -, -⟩ | ⟨-, rfl, rfl⟩
  · have hlength := congrArg List.length hrest
    simp only [List.length_append] at hlength
    omega
  · rw [List.take_of_length_le (Nat.le_of_lt h), List.drop_of_length_le (Nat.le_of_lt h)]

end Place

/-! ### All calls -/

/-- The calls for tokens from a place on, as long as all of them are made: one for each token until
the source is at its end. -/
def Place.located (units : OffsetUnits) : Place → List Token → List Located
  | _, [] => []
  | place, token :: tokens =>
    if place.rest = [] then []
    else
      let (range, next) := place.locate units token.payload
      ⟨range, token⟩ :: located units next tokens

namespace Place

variable {units : OffsetUnits} {place : Place}

theorem located_of_rest_eq_nil (h : place.rest = []) (tokens : List Token) :
    place.located units tokens = [] := by
  cases tokens with
  | nil => rfl
  | cons token tokens => rw [located, if_pos h]

theorem located_cons (h : place.rest ≠ []) (token : Token) (tokens : List Token) :
    place.located units (token :: tokens) =
      ⟨(place.locate units token.payload).1, token⟩ ::
        (place.locate units token.payload).2.located units tokens := by
  rw [located, if_neg h]

/-- The calls are for the first tokens, in order. -/
theorem map_token_located_isPrefix (units : OffsetUnits) (place : Place) (tokens : List Token) :
    (place.located units tokens).map Located.token <+: tokens := by
  fun_induction located units place tokens with
  | case1 place => exact List.nil_prefix
  | case2 place token tokens hrest => exact List.nil_prefix
  | case3 place token tokens hrest range next hlocate ih =>
    rw [List.map_cons, List.cons_prefix_cons]
    exact ⟨rfl, ih⟩

end Place

/-! ### Callbacks -/

section Callback

variable {σ α ε : Type}

/-- **Any callback takes its calls from one list**, the calls that are made if it never ends
them. -/
theorem deliver_eq_consume (units : OffsetUnits) (callback : Callback σ Located ε)
    (tokens : List Token) (state : σ) (place : Place) :
    deliver units callback state place tokens =
      callback.consume state (place.located units tokens) := by
  induction tokens generalizing state place with
  | nil => rfl
  | cons token tokens ih =>
    by_cases hrest : place.rest = []
    · rw [deliver, if_pos hrest, Place.located_of_rest_eq_nil hrest, Callback.consume]
    · rw [deliver, if_neg hrest, Place.located_cons hrest, Callback.consume]
      exact congrArg (callback.offer state _) (funext fun state => ih state _)

theorem Callback.offer_always (call : α) (next : Unit → Delivery α ε) :
    always.offer () call next = { next () with calls := call :: (next ()).calls } := rfl

/-- A callback that always wants to go on gets all calls. -/
theorem Callback.consume_always (calls : List α) :
    (Callback.always : Callback Unit α ε).consume () calls = ⟨calls, none⟩ := by
  induction calls with
  | nil => rfl
  | cons call calls ih => rw [consume, offer_always, ih]

end Callback

end LexBridge
