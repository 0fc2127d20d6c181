import LexBridge.Proofs.Range.Soundness

/-!
# Tokens that spell their source

Tokens whose text is the source, with some more behind it, are found just where they stand: each of
them begins where the one before it ended, although its payload may occur elsewhere too. The search
goes wrong at one token only, if at any: the one that begins in the source and ends behind it.

`Place.Tiled` is the shape of these calls, built up token by token. That the search makes calls of
this shape is proved once (`Place.tiled_located`), and everything else is read off the shape by
induction on how it is built.

## Main definitions

* `Range.Tile`: ranges that lie side by side.
* `Token.Straddles`: a token that begins in a source and ends behind it.
* `Place.Tiled`: the shape of calls for tokens that spell the rest of the source.
* `Located.Tiling`: what holds of all calls for one source together.

## Main results

* `Place.tiled_located`: the search makes calls of this shape.
* `Located.tiling_located`: calls for tokens that spell their source tile it.
-/

namespace LexBridge

/-! ### Ranges side by side -/

/-- Ranges that lie side by side from `start` to `stop`, none of them empty. -/
def Range.Tile : (start stop : Int) → List Range → Prop
  | start, stop, [] => start = stop
  | start, stop, range :: ranges =>
    range.start = start ∧ 0 < range.length ∧ Tile range.stop stop ranges

/-- Whether a token that stands behind others holds characters of a source and others behind it. -/
def Token.Straddles (source : Text) (before : List Token) (token : Token) : Prop :=
  (before.flatMap (·.payload)).length < source.length ∧
    source.length < (before.flatMap (·.payload)).length + token.payload.length

namespace Token

variable {rest : Text} {before : List Token} {token : Token}

theorem straddles_nil (h : rest ≠ []) :
    token.Straddles rest [] ↔ rest.length < token.payload.length := by
  simp [Straddles, List.length_pos_iff.mpr h]

/-- What is in front of both may be left out. -/
theorem straddles_cons (first : Token) :
    token.Straddles (first.payload ++ rest) (first :: before) ↔ token.Straddles rest before := by
  simp only [Straddles, List.flatMap_cons, List.length_append]
  omega

end Token

/-! ### The shape of the calls -/

/-- The calls for tokens that spell the rest of a source. A token with which the rest begins has its
range there. One that ends behind the source is unresolved, and the last. -/
inductive Place.Tiled (units : OffsetUnits) : Place → List Token → List Located → Prop
  | stop {offset : Nat} {tokens : List Token} : Tiled units ⟨offset, []⟩ tokens []
  | found {offset : Nat} {rest : Text} {token : Token} {tokens : List Token}
      {calls : List Located} (hpayload : token.payload ≠ [])
      (h : Tiled units ⟨offset + units.size token.payload, rest⟩ tokens calls) :
      Tiled units ⟨offset, token.payload ++ rest⟩ (token :: tokens)
        (⟨⟨offset, units.size token.payload⟩, token⟩ :: calls)
  | straddling {offset : Nat} {rest : Text} {token : Token} {tokens : List Token}
      (hrest : rest ≠ []) (hlong : rest.length < token.payload.length) :
      Tiled units ⟨offset, rest⟩ (token :: tokens) [⟨.unresolved, token⟩]

namespace Place

variable {units : OffsetUnits} {place : Place} {tokens : List Token} {calls : List Located}

/-- The source begins with a payload, or the payload is longer than the source. -/
theorem append_eq_append_cases {payload more rest suffix : Text}
    (h : payload ++ more = rest ++ suffix) :
    (∃ left, rest = payload ++ left ∧ more = left ++ suffix) ∨ rest.length < payload.length := by
  rcases List.append_eq_append_iff.mp h with ⟨left, hrest, hmore⟩ | ⟨extra, hpayload, hsuffix⟩
  · exact Or.inl ⟨left, hrest, hmore⟩
  · cases extra with
    | nil =>
      rw [List.append_nil] at hpayload
      exact Or.inl ⟨[], by rw [hpayload, List.append_nil], hsuffix.symm⟩
    | cons c extra =>
      right
      rw [hpayload, List.length_append, List.length_cons]
      omega

/-- **The search for tokens that spell the rest of a source** finds each of them at once, up to the
one that ends behind the source. -/
theorem tiled_located (units : OffsetUnits) (place : Place) {suffix : Text}
    (htokens : ∀ token ∈ tokens, token.payload ≠ [])
    (h : tokens.flatMap (·.payload) = place.rest ++ suffix) :
    Tiled units place tokens (place.located units tokens) := by
  fun_induction located units place tokens with
  | case1 place =>
    obtain ⟨offset, rest⟩ := place
    obtain ⟨rfl, -⟩ := List.append_eq_nil_iff.mp h.symm
    exact .stop
  | case2 place token tokens hrest =>
    obtain ⟨offset, rest⟩ := place
    obtain rfl : rest = [] := hrest
    exact .stop
  | case3 place token tokens hrest range next hlocate ih =>
    obtain ⟨offset, rest⟩ := place
    obtain ⟨htoken, hothers⟩ := List.forall_mem_cons.mp htokens
    rcases append_eq_append_cases h with ⟨left, rfl, hmore⟩ | hlong
    · rw [locate_append] at hlocate
      obtain ⟨rfl, rfl⟩ := Prod.mk.inj hlocate
      exact .found htoken (ih hothers hmore)
    · rw [locate_of_length_lt units hlong] at hlocate
      obtain ⟨rfl, rfl⟩ := Prod.mk.inj hlocate
      rw [located_of_rest_eq_nil rfl]
      exact .straddling hrest hlong

/-! ### What the shape means -/

namespace Tiled

/-- A token has a call just if it begins in the source. -/
theorem lt_length_iff (h : Tiled units place tokens calls) :
    ∀ {before after : List Token} {token : Token}, tokens = before ++ token :: after →
      (before.length < calls.length ↔
        (before.flatMap (·.payload)).length < place.rest.length) := by
  induction h with
  | stop => simp
  | found hpayload h ih =>
    intro before after token htokens
    have hpos := List.length_pos_iff.mpr hpayload
    cases before with
    | nil =>
      simp only [List.length_nil, List.flatMap_nil, List.length_cons, List.length_append]
      omega
    | cons first before =>
      obtain ⟨rfl, hmore⟩ := List.cons.inj htokens
      have hiff := ih hmore
      simp only [List.length_cons, List.flatMap_cons, List.length_append] at hiff ⊢
      omega
  | straddling hrest hlong =>
    intro before after token htokens
    cases before with
    | nil => simp [List.length_pos_iff.mpr hrest]
    | cons first before =>
      obtain ⟨rfl, -⟩ := List.cons.inj htokens
      simp only [List.length_cons, List.length_nil, List.flatMap_cons, List.length_append]
      omega

/-- The resolved ranges lie side by side. -/
theorem tile_resolved (h : Tiled units place tokens calls) :
    ∃ stop, Range.Tile place.offset stop
      ((calls.filter (·.range.isResolved)).map Located.range) := by
  induction h with
  | stop => exact ⟨_, rfl⟩
  | @found offset rest token tokens calls hpayload h ih =>
    obtain ⟨stop, htile⟩ := ih
    have hresolved : (⟨⟨offset, units.size token.payload⟩, token⟩ : Located).range.isResolved :=
      Range.isResolved_of_nonneg (Int.natCast_nonneg offset)
    rw [List.filter_cons, if_pos hresolved, List.map_cons]
    exact ⟨stop, rfl, Int.natCast_pos.mpr (units.size_pos hpayload), htile⟩
  | straddling => exact ⟨_, rfl⟩

/-- A call is unresolved just if its token ends behind the source, and then it is the last. -/
theorem unresolved_iff (h : Tiled units place tokens calls) :
    ∀ {before after : List Located} {call : Located}, calls = before ++ call :: after →
      (call.range = .unresolved ↔
          call.token.Straddles place.rest (before.map Located.token)) ∧
        (call.range = .unresolved → after = []) := by
  induction h with
  | stop => simp
  | @found offset rest token tokens calls hpayload h ih =>
    intro before after call hcalls
    cases before with
    | nil =>
      obtain ⟨rfl, -⟩ := List.cons.inj hcalls
      have hne : (⟨offset, units.size token.payload⟩ : Range) ≠ .unresolved := by
        intro heq
        have hstart := congrArg Range.start heq
        simp only [Range.unresolved, Range.nowhere] at hstart
        omega
      refine ⟨iff_of_false hne ?_, fun heq => absurd heq hne⟩
      rw [List.map_nil, Token.straddles_nil (by simp [hpayload]), List.length_append]
      exact Nat.not_lt.mpr (Nat.le_add_right _ _)
    | cons first before =>
      obtain ⟨rfl, hmore⟩ := List.cons.inj hcalls
      rw [List.map_cons, Token.straddles_cons]
      exact ih hmore
  | straddling hrest hlong =>
    intro before after call hcalls
    obtain ⟨rfl, hcall⟩ | ⟨_, -, hnil⟩ := List.append_eq_cons_iff.mp hcalls.symm
    · obtain ⟨rfl, rfl⟩ := List.cons.inj hcall
      exact ⟨iff_of_true rfl ((Token.straddles_nil hrest).mpr hlong), fun _ => rfl⟩
    · exact absurd hnil.symm (by simp)

/-- If no token ends behind the source, the ranges partition it. -/
theorem tile_of_not_straddles (h : Tiled units place tokens calls)
    (hnone : ∀ before token after, tokens = before ++ token :: after →
      ¬ token.Straddles place.rest before) :
    Range.Tile place.offset (place.offset + units.size place.rest : Nat)
      (calls.map Located.range) := by
  induction h with
  | stop => rfl
  | @found offset rest token tokens calls hpayload h ih =>
    have htile := ih fun before other after htokens hstraddles =>
      hnone (token :: before) other after (by rw [htokens, List.cons_append])
        ((Token.straddles_cons token).mpr hstraddles)
    refine ⟨rfl, Int.natCast_pos.mpr (units.size_pos hpayload), ?_⟩
    rw [units.size_append, ← Nat.add_assoc]
    exact htile
  | @straddling offset rest token tokens hrest hlong =>
    exact absurd ((Token.straddles_nil hrest).mpr hlong) (hnone [] token tokens rfl)

end Tiled

end Place

/-! ### Tilings -/

/-- Calls that tile a source. They are for the first tokens, those that begin in the source; the
resolved ranges lie side by side from the beginning of the source and hold their payloads; a call is
unresolved just if its token ends behind the source, and it is the last call then; and if there is
no such token, the ranges of all calls partition the source. -/
structure Located.Tiling (units : OffsetUnits) (source : Text) (tokens : List Token)
    (calls : List Located) : Prop where
  map_token_isPrefix : calls.map Located.token <+: tokens
  lt_length_iff : ∀ before token after, tokens = before ++ token :: after →
    (before.length < calls.length ↔ (before.flatMap (·.payload)).length < source.length)
  tile_resolved : ∃ stop, Range.Tile 0 stop
    ((calls.filter (·.range.isResolved)).map Located.range)
  fits : ∀ call ∈ calls, call.range = .unresolved ∨ call.Fits units source
  unresolved_iff : ∀ before call after, calls = before ++ call :: after →
    (call.range = .unresolved ↔ call.token.Straddles source (before.map Located.token))
  eq_nil_of_unresolved : ∀ before call after, calls = before ++ call :: after →
    call.range = .unresolved → after = []
  tile_of_not_straddles : (∀ before token after, tokens = before ++ token :: after →
    ¬ token.Straddles source before) → Range.Tile 0 (units.size source) (calls.map Located.range)

/-- **The calls for tokens that spell their source tile it**, whatever follows the source in what
they spell. -/
theorem Located.tiling_located (units : OffsetUnits) {source suffix : Text} {tokens : List Token}
    (htokens : ∀ token ∈ tokens, token.payload ≠ [])
    (hspell : tokens.flatMap (·.payload) = source ++ suffix) :
    Located.Tiling units source tokens ((⟨0, source⟩ : Place).located units tokens) := by
  have htiled := Place.tiled_located units ⟨0, source⟩ htokens hspell
  have hsound := Place.sound_located units source htokens
  exact {
    map_token_isPrefix := Place.map_token_located_isPrefix units _ tokens
    lt_length_iff := fun _ _ _ htoken => htiled.lt_length_iff htoken
    tile_resolved := htiled.tile_resolved
    fits := hsound.fits
    unresolved_iff := fun _ _ _ hcall => (htiled.unresolved_iff hcall).1
    eq_nil_of_unresolved := fun _ _ _ hcall => (htiled.unresolved_iff hcall).2
    tile_of_not_straddles := fun hnone => by
      have htile := htiled.tile_of_not_straddles hnone
      rwa [Nat.zero_add] at htile }

/-- A last token that the lexer has closed with a LF of its own is not found. -/
example : (⟨0, [0x61, 0x62]⟩ : Place).located .utf16 [⟨.name, [0x61]⟩, ⟨.text, [0x62, 0x0A]⟩] =
    [⟨⟨0, 1⟩, .name, [0x61]⟩, ⟨.unresolved, .text, [0x62, 0x0A]⟩] := by
  decide

end LexBridge
