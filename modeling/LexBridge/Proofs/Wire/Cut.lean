import LexBridge.Proofs.Wire.Row

/-!
# Rows that were cut

What is left of the line of a row when it is cut. Inside the name there are no two fields yet.
Behind the tab the name is whole, and what is left of the payload is malformed, or holds the first
bytes of the fragment: its last character stands where the closing wrapper is expected, and is not
read.

## Main results

* `Payload.bytes_of_cut`: the bytes of a payload that is cut.
* `Row.OneLine.fields?_of_cut`: the fields of a line that is cut.
-/

namespace LexBridge

/-- Digits that are cut anywhere give the first of the bytes, and half a byte gives nothing. -/
theorem Payload.pairs_of_cut :
    ∀ {bytes : List UInt8} {body : Text}, body <+: bytes.flatMap digitsOf →
      pairs (body.flatMap lower) <+: bytes
  | [], body, h => by
    obtain rfl := List.prefix_nil.mp h
    exact List.nil_prefix
  | b :: bytes, body, h => by
    have hdigits := digitsOf_eq b
    rw [List.flatMap_cons, hdigits, List.cons_append, List.singleton_append,
      List.prefix_cons_iff] at h
    rcases h with rfl | ⟨half, rfl, hhalf⟩
    · exact List.nil_prefix
    rcases List.prefix_cons_iff.mp hhalf with rfl | ⟨body, rfl, hbody⟩
    · have hhigh : b.toNat / 16 < 16 := by
        have hb : b.toNat < 256 := b.toNat_lt
        omega
      rw [List.flatMap_singleton, CodePoint.lower_hexDigit _ hhigh]
      exact List.nil_prefix
    · have hbyte := pairs_digitsOf_append b body
      rw [hdigits, List.cons_append, List.singleton_append] at hbyte
      rw [hbyte, List.prefix_cons_inj]
      exact pairs_of_cut hbody

/-- **A payload that is cut holds the first of the bytes**, or none. -/
theorem Payload.bytes_of_cut {bytes : List UInt8} {field : Text} (h : field <+: ofBytes bytes) :
    Payload.bytes field <+: bytes := by
  rw [ofBytes_eq, List.prefix_cons_iff] at h
  rcases h with rfl | ⟨more, rfl, hmore⟩
  · exact List.nil_prefix
  rcases List.eq_nil_or_concat more with rfl | ⟨body, last, rfl⟩
  · exact List.nil_prefix
  rw [List.concat_eq_append] at hmore
  rw [List.concat_eq_append, bytes_wrapped]
  refine pairs_of_cut ?_
  -- whatever the last character is, all before it are digits
  have hlength := hmore.length_le
  rw [List.length_append, List.length_append] at hlength
  exact List.prefix_of_prefix_length_le ((List.prefix_append body [last]).trans hmore)
    (List.prefix_append _ _) (by simpa using hlength)

/-- **A line that is cut has no two fields, or those of its row with a payload that is cut.** -/
theorem Row.OneLine.fields?_of_cut {row : Row} (h : row.OneLine) {piece : Text}
    (hpiece : piece <+: row.line) :
    fields? piece = none ∨
      ∃ field, fields? piece = some (row.name, field) ∧
        Payload.bytes field <+: Utf8.encode row.value := by
  rcases Text.prefix_append_cons_iff.mp hpiece with hname | ⟨field, rfl, hfield⟩
  · left
    cases hfields : fields? piece with
    | none => rfl
    | some fields =>
      obtain ⟨-, -, rfl⟩ := fields?_eq_some_iff.mp hfields
      exact absurd (hname.subset (by simp)) h.name_tab
  · right
    refine ⟨field, fields?_eq_some_iff.mpr ⟨h.name_tab, fun htab => ?_, rfl⟩,
      Payload.bytes_of_cut hfield⟩
    exact Payload.forall_mem_ofBytes (p := (· ≠ 0x09)) (by decide) CodePoint.hexDigit_ne_tab _ _
      (hfield.subset htab) rfl

end LexBridge
