import LexBridge.Proofs.Range.Callbacks
import LexBridge.Proofs.Range.Cursor
import Mathlib.Data.List.Forall2

/-!
# Ranges in both units

The units of offsets are a matter of counting, and the search does not depend on them. Whatever a
source and its tokens are, the same tokens are visited and the same ones are lost in either unit,
and a range in UTF-16 is the range in code points, counted anew from the beginning of the source:
what the search adds up on its way is what stands before the index. Characters beyond the first
65536 count twice wherever they stand, in a payload that is found, in one that is lost, or in text
that is skipped; a surrogate that stands alone counts once.

A callback may stop at any call, and what it answers may depend on the ranges that it gets, which
are not the same in both units. If it does not (`Callback.IgnoresRanges`), it stops at the same
call.

## Main definitions

* `Utf16.offset`: how many code units stand before an index of a source.
* `Range.Recounted`: a range in code points, and the same range in UTF-16.
* `Callback.IgnoresRanges`: a callback whose answers do not depend on ranges.

## Main results

* `Place.recounted_located`: all calls, in both units.
* `mapRanges_recounted`: the calls that a callback gets, in both units.
-/

namespace LexBridge

/-! ### Offsets -/

/-- A text without characters beyond the first 65536 has as many code units as characters. -/
theorem OffsetUnits.size_utf16_of_not_isAstral {text : Text}
    (h : ∀ c ∈ text, c.isAstral = false) : utf16.size text = text.length := by
  induction text with
  | nil => rfl
  | cons c text ih =>
    obtain ⟨hc, htext⟩ := List.forall_mem_cons.mp h
    have hwidth : utf16.width c = 1 := by
      rw [width, Utf16.encodeOne, if_neg (Bool.eq_false_iff.mp hc), List.length_singleton]
    rw [size_cons, hwidth, ih htext, List.length_cons, Nat.add_comm]

namespace Utf16

/-- How many code units the characters before an index of a source take. -/
def offset (source : Text) (index : Nat) : Nat := (encode (source.take index)).length

theorem size_take (source : Text) (index : Nat) :
    OffsetUnits.utf16.size (source.take index) = offset source index :=
  (OffsetUnits.utf16.length_encode _).symm

/-- A text takes what stands before its end and not before its index. -/
theorem size_of_occursAt {wanted source : Text} {index : Nat} (h : wanted.OccursAt source index) :
    (OffsetUnits.utf16.size wanted : Int) =
      offset source (index + wanted.length) - offset source index := by
  rw [← size_take, OffsetUnits.size_take_add, h, size_take]
  omega

theorem offset_of_not_isAstral {source : Text} {index : Nat}
    (h : ∀ c ∈ source, c.isAstral = false) (hindex : index ≤ source.length) :
    offset source index = index := by
  rw [← size_take, OffsetUnits.size_utf16_of_not_isAstral fun c hc => h c (List.mem_of_mem_take hc),
    List.length_take_of_le hindex]

end Utf16

/-! ### Ranges -/

/-- A range in code points of a source, and the same range in UTF-16. -/
inductive Range.Recounted (source : Text) : Range → Range → Prop
  | unresolved : Recounted source .unresolved .unresolved
  | resolved {start length : Nat} (h : start + length ≤ source.length) :
      Recounted source ⟨start, length⟩
        ⟨Utf16.offset source start,
          Utf16.offset source (start + length) - Utf16.offset source start⟩

/-- Without characters beyond the first 65536, both ranges are the same. -/
theorem Range.Recounted.eq_of_not_isAstral {source : Text} {point unit : Range}
    (h : point.Recounted source unit) (hsource : ∀ c ∈ source, c.isAstral = false) :
    unit = point := by
  cases h with
  | unresolved => rfl
  | @resolved start length hend =>
    have hlength : ((start + length : Nat) : Int) - (start : Nat) = length := by omega
    rw [Utf16.offset_of_not_isAstral hsource hend,
      Utf16.offset_of_not_isAstral hsource (Nat.le_trans (Nat.le_add_right _ _) hend), hlength]

/-- Calls for the same token, with its range in code points and in UTF-16. -/
structure Located.Recounted (source : Text) (point unit : Located) : Prop where
  token_eq : unit.token = point.token
  range : point.range.Recounted source unit.range

namespace Located

variable {source : Text} {points units : List Located}

theorem map_token_eq_of_recounted (h : List.Forall₂ (Recounted source) points units) :
    units.map token = points.map token := by
  induction h with
  | nil => rfl
  | cons hcall _ ih => rw [List.map_cons, List.map_cons, hcall.token_eq, ih]

theorem eq_of_recounted (h : List.Forall₂ (Recounted source) points units)
    (hsource : ∀ c ∈ source, c.isAstral = false) : units = points := by
  induction h with
  | nil => rfl
  | @cons point unit _ _ hcall _ ih =>
    obtain ⟨htoken, hrange⟩ := hcall
    have hpoint : unit = ⟨point.range, point.token⟩ := by
      rw [← htoken, ← hrange.eq_of_not_isAstral hsource]
    rw [hpoint, ih]

end Located

/-- **All calls are the same in both units**, up to counting. -/
theorem Place.recounted_located (source : Text) (position : Nat) (tokens : List Token) :
    List.Forall₂ (Located.Recounted source)
      ((ofPosition .codePoint source position).located .codePoint tokens)
      ((ofPosition .utf16 source position).located .utf16 tokens) := by
  induction tokens generalizing position with
  | nil => exact .nil
  | cons token tokens ih =>
    by_cases hposition : source.length ≤ position
    · rw [located_of_length_le hposition, located_of_length_le hposition]
      exact .nil
    have hlt := Nat.lt_of_not_le hposition
    cases hindex : token.payload.indexFrom? source position with
    | none =>
      rw [located_cons_of_lost hlt hindex, located_cons_of_lost hlt hindex]
      exact .cons ⟨rfl, .unresolved⟩ (ih _)
    | some index =>
      obtain ⟨-, hoccurs, -⟩ := Text.indexFrom?_eq_some_iff.mp hindex
      have hend := Text.add_length_le_of_indexFrom? hindex (Nat.le_of_lt hlt)
      rw [located_cons_of_found hlt hindex, located_cons_of_found hlt hindex]
      refine .cons ⟨rfl, ?_⟩ (ih _)
      rw [OffsetUnits.size_take_codePoint (Nat.le_trans (Nat.le_add_right _ _) hend),
        OffsetUnits.size_codePoint, Utf16.size_take, Utf16.size_of_occursAt hoccurs]
      exact .resolved hend

/-! ### Callbacks -/

section Callback

variable {σ ε : Type} {callback : Callback σ Located ε} {state : σ}

/-- A callback whose answers do not depend on ranges: it answers calls for the same tokens alike,
wherever these are. -/
def Callback.IgnoresRanges (callback : Callback σ Located ε) (state : σ) : Prop :=
  ∀ calls others : List Located, calls.map Located.token = others.map Located.token →
    callback.replies state calls = callback.replies state others

/-- A callback that does not look at ranges at all. -/
theorem Callback.ignoresRanges_of_token
    (h : ∀ state token range other, callback state ⟨range, token⟩ = callback state ⟨other, token⟩)
    (state : σ) : callback.IgnoresRanges state := by
  intro calls
  induction calls generalizing state with
  | nil =>
    intro others hothers
    rw [List.map_eq_nil_iff.mp hothers.symm]
  | cons call calls ih =>
    intro others hothers
    obtain ⟨other, rest, rfl, htoken, hrest⟩ := List.map_eq_cons_iff.mp hothers.symm
    have hcall : callback state call = callback state other := by
      obtain ⟨range, token⟩ := call
      obtain ⟨range', token'⟩ := other
      obtain rfl : token' = token := htoken
      exact h state token' range range'
    rw [replies, replies, hcall, ih _ rest hrest.symm]

/-- **Both units deliver the same calls, counted apart.** A callback whose answers do not depend on
ranges is called for the same tokens in either unit, and the same error comes of it; each call is
unresolved in both units, or its range in UTF-16 is its range in code points, counted from the
beginning of the source. If no character lies beyond the first 65536, the calls are equal. And the
offsets of either unit are those that a cursor counts on from one match to the next. -/
theorem mapRanges_recounted (h : callback.IgnoresRanges state) (source : Text)
    (tokens : List Token) :
    let points := mapRanges .codePoint callback state source tokens
    let units := mapRanges .utf16 callback state source tokens
    units.calls.map Located.token = points.calls.map Located.token ∧
      units.failure = points.failure ∧
      List.Forall₂ (Located.Recounted source) points.calls units.calls ∧
      ((∀ c ∈ source, c.isAstral = false) → units.calls = points.calls) ∧
      Cursor.mapRanges .utf16 callback state source tokens = units ∧
      Cursor.mapRanges .codePoint callback state source tokens = points := by
  intro points units
  have hall := Place.recounted_located source 0 tokens
  have hreplies := h _ _ (Located.map_token_eq_of_recounted hall)
  have hpoints : points = _ := (mapRanges_eq_consume ..).trans (callback.consume_eq _ state)
  have hunits : units = _ := (mapRanges_eq_consume ..).trans (callback.consume_eq _ state)
  have hcalls : List.Forall₂ (Located.Recounted source) points.calls units.calls := by
    rw [hpoints, hunits, hreplies]
    exact List.forall₂_take _ hall
  refine ⟨Located.map_token_eq_of_recounted hcalls, ?_, hcalls, Located.eq_of_recounted hcalls,
    Cursor.mapRanges_eq .., Cursor.mapRanges_eq ..⟩
  rw [hpoints, hunits, hreplies]

/-- An astral character, a lost token, a lone surrogate and a callback that ends in an error. -/
theorem mapRanges_recounted_astral :
    let callback : Callback Nat Located Nat := fun count call =>
      if call.token.payload = [0x62] then (.fail count, count) else (.proceed, count + 1)
    let source : Text := [0x1F600, 0x7A, 0xD800, 0x62]
    let tokens : List Token := [⟨.text, [0x1F600]⟩, ⟨.name, [0x1F601]⟩, ⟨.text, [0xD800]⟩,
      ⟨.name, [0x62]⟩, ⟨.name, [0x63]⟩]
    let points := mapRanges .codePoint callback 0 source tokens
    let units := mapRanges .utf16 callback 0 source tokens
    callback.IgnoresRanges 0 ∧
      points.calls.map Located.range = [⟨0, 1⟩, .unresolved, ⟨2, 1⟩, ⟨3, 1⟩] ∧
      units.calls.map Located.range = [⟨0, 2⟩, .unresolved, ⟨3, 1⟩, ⟨4, 1⟩] ∧
      units.failure = some 3 ∧
      List.Forall₂ (Located.Recounted source) points.calls units.calls := by
  intro callback source tokens points units
  have hignores : callback.IgnoresRanges 0 :=
    Callback.ignoresRanges_of_token (fun _ _ _ _ => rfl) 0
  obtain ⟨-, hfailure, hcalls, -, -, -⟩ := mapRanges_recounted hignores source tokens
  have hfails : points.failure = some 3 := by decide
  exact ⟨hignores, by decide, by decide, hfailure.trans hfails, hcalls⟩

end Callback

end LexBridge
