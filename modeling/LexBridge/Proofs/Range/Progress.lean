import LexBridge.Proofs.Range.Position

/-!
# How far the search has come

The search for tokens keeps a position of its own, but it need not be asked for it: the calls tell.
In code points a resolved range ends where the search went on, and behind a token that was lost it
went on behind as many characters as the token has. So the position is the end of the last resolved
range, or zero, and from there the characters of all payloads that were lost since.

This is an invariant of the search, from which its whole behaviour in code points is read off: a
token has a call just if the position before it lies in the source, its range begins at the first
index from that position on at which its payload stands, and the position never moves back. Nothing
is asked of the payloads. An empty one stands at every index, so it is found at once, and the
position stays.

## Main definitions

* `Located.progress`: the position of the search, told from the calls.
* `Place.Sought`: the range that one search finds, and the position behind it.
* `Place.Searches`: the calls for tokens, one search after the other.

## Main results

* `Place.searches_located`: one search after the other.
* `Place.Searches.call_cases`: the position of each search is told from the calls before it.
* `mapRanges_leftmost`: which tokens have calls, and with which ranges.
-/

namespace LexBridge

/-! ### The position in the calls -/

namespace Located

/-- How far the search has come with these calls: to the end of the last resolved range, or to the
beginning if there is none, and behind the payloads of all calls after that. -/
def progress (calls : List Located) : Int :=
  let last := calls.reverse.find? fun call => call.range.isResolved
  let lost := calls.reverse.takeWhile fun call => !call.range.isResolved
  (last.map fun call => call.range.stop).getD 0 +
    (lost.flatMap fun call => call.token.payload).length

variable {calls : List Located} {call : Located}

theorem progress_nil : progress [] = (0 : Nat) := rfl

theorem progress_concat_of_isResolved (h : call.range.isResolved = true) :
    progress (calls ++ [call]) = call.range.stop := by
  simp [progress, h]

theorem progress_concat_of_not_isResolved (h : call.range.isResolved = false) :
    progress (calls ++ [call]) = progress calls + call.token.payload.length := by
  simp only [progress, List.reverse_append, List.reverse_singleton, List.singleton_append,
    List.find?_cons, List.takeWhile_cons, h, Bool.not_false, if_true, List.flatMap_cons,
    List.length_append]
  omega

end Located

/-! ### One search -/

namespace Place

/-- What the search for a token from a position on comes to in code points: the range of the token,
and the position where the search goes on. -/
inductive Sought (source : Text) (position : Nat) (token : Token) : Range → Nat → Prop
  | found {index : Nat} (h : token.payload.indexFrom? source position = some index) :
      Sought source position token ⟨index, token.payload.length⟩ (index + token.payload.length)
  | lost (h : token.payload.indexFrom? source position = none) :
      Sought source position token .unresolved (position + token.payload.length)

variable {source : Text} {position next : Nat} {token : Token} {range : Range}

namespace Sought

/-- The position does not move back. -/
theorem le (h : Sought source position token range next) : position ≤ next := by
  cases h with
  | found h => exact Nat.le_trans (Text.indexFrom?_eq_some_iff.mp h).1 (Nat.le_add_right _ _)
  | lost h => exact Nat.le_add_right _ _

/-- The range begins at the first index at which the payload stands. -/
theorem range_eq_iff (h : Sought source position token range next) (index : Nat) :
    range = ⟨index, token.payload.length⟩ ↔
      position ≤ index ∧ token.payload.OccursAt source index ∧
        ∀ other, position ≤ other → token.payload.OccursAt source other → index ≤ other := by
  rw [← Text.indexFrom?_eq_some_iff]
  cases h with
  | found h =>
    rw [h, Range.mk.injEq, Option.some_inj]
    omega
  | lost h =>
    rw [h, Range.unresolved, Range.mk.injEq, Range.nowhere]
    refine iff_of_false (fun heq => ?_) (Option.some_ne_none _).symm
    omega

/-- There is no range if the payload stands nowhere. -/
theorem range_eq_unresolved_iff (h : Sought source position token range next) :
    range = .unresolved ↔ ∀ index, position ≤ index → ¬ token.payload.OccursAt source index := by
  rw [← Text.indexFrom?_eq_none_iff]
  cases h with
  | found h =>
    rw [h, Range.unresolved, Range.mk.injEq, Range.nowhere]
    refine iff_of_false (fun heq => ?_) (Option.some_ne_none _)
    omega
  | lost h => exact iff_of_true rfl h

/-- The next position is told from the calls. -/
theorem progress_concat (h : Sought source position token range next) {calls : List Located}
    (hposition : Located.progress calls = position) :
    Located.progress (calls ++ [⟨range, token⟩]) = next := by
  cases h with
  | found h =>
    rw [Located.progress_concat_of_isResolved
      (Range.isResolved_of_nonneg (Int.natCast_nonneg _))]
    rfl
  | lost h =>
    rw [Located.progress_concat_of_not_isResolved rfl, hposition]
    rfl

end Sought

/-- The calls for tokens from a position on, one search after the other, until there are no tokens
left or the position is not in the source. -/
inductive Searches (source : Text) : Nat → List Token → List Located → Prop
  | noToken {position : Nat} : Searches source position [] []
  | atEnd {position : Nat} {token : Token} {tokens : List Token}
      (h : source.length ≤ position) : Searches source position (token :: tokens) []
  | call {position next : Nat} {token : Token} {tokens : List Token} {range : Range}
      {calls : List Located} (hposition : position < source.length)
      (hsought : Sought source position token range next) (h : Searches source next tokens calls) :
      Searches source position (token :: tokens) (⟨range, token⟩ :: calls)

/-- The search makes one call after the other. -/
theorem searches_located (source : Text) (tokens : List Token) (position : Nat) :
    Searches source position tokens
      ((ofPosition .codePoint source position).located .codePoint tokens) := by
  induction tokens generalizing position with
  | nil => exact .noToken
  | cons token tokens ih =>
    rcases Nat.lt_or_ge position source.length with hposition | hend
    · cases hindex : token.payload.indexFrom? source position with
      | none =>
        rw [located_cons_of_lost hposition hindex]
        exact .call hposition (.lost hindex) (ih _)
      | some index =>
        have hlength := Text.add_length_le_of_indexFrom? hindex (Nat.le_of_lt hposition)
        rw [located_cons_of_found hposition hindex,
          OffsetUnits.size_take_codePoint (Nat.le_trans (Nat.le_add_right _ _) hlength),
          OffsetUnits.size_codePoint]
        exact .call hposition (.found hindex) (ih _)
    · rw [located_of_length_le hend]
      exact .atEnd hend

namespace Searches

variable {tokens : List Token} {calls earlier : List Located} {index : Nat}

/-- **The position of each search is told from the calls before it.** If a token has a call, it was
sought from there; if it has none but all tokens before it have, the position is not in the
source. -/
theorem call_cases (h : Searches source position tokens calls)
    (hearlier : Located.progress earlier = position) (htoken : tokens[index]? = some token) :
    (∃ (start next : Nat) (range : Range),
        Located.progress (earlier ++ calls.take index) = start ∧ start < source.length ∧
          calls[index]? = some ⟨range, token⟩ ∧ Sought source start token range next ∧
          Located.progress (earlier ++ calls.take (index + 1)) = next) ∨
      calls.length ≤ index ∧ (calls.length = index →
        (source.length : Int) ≤ Located.progress (earlier ++ calls.take index)) := by
  induction h generalizing earlier index with
  | noToken => cases htoken
  | atEnd hend =>
    refine Or.inr ⟨Nat.zero_le _, fun _ => ?_⟩
    rw [List.take_nil, List.append_nil, hearlier]
    exact Int.ofNat_le.mpr hend
  | @call position next first tokens range calls hposition hsought _ ih =>
    have hnext := hsought.progress_concat hearlier
    cases index with
    | zero =>
      obtain rfl : first = token := Option.some.inj htoken
      refine Or.inl ⟨position, next, range, ?_, hposition, rfl, hsought, hnext⟩
      rw [List.take_zero, List.append_nil, hearlier]
    | succ index =>
      have htake : ∀ count, earlier ++ (⟨range, first⟩ :: calls).take (count + 1) =
          earlier ++ [⟨range, first⟩] ++ calls.take count := fun count => by
        rw [List.take_succ_cons, List.append_assoc, List.singleton_append]
      rw [htake, htake, List.getElem?_cons_succ, List.length_cons, Nat.add_le_add_iff_right,
        Nat.add_right_cancel_iff]
      exact ih hnext htoken

theorem length_le (h : Searches source position tokens calls) : calls.length ≤ tokens.length := by
  induction h with
  | noToken => exact Nat.le_refl _
  | atEnd _ => exact Nat.zero_le _
  | call _ _ _ ih => exact Nat.succ_le_succ ih

/-- The position does not move back from one call to the next. -/
theorem progress_le_succ (h : Searches source 0 tokens calls) (index : Nat) :
    Located.progress (calls.take index) ≤ Located.progress (calls.take (index + 1)) := by
  rcases Nat.lt_or_ge index calls.length with hindex | hindex
  · have htoken := List.getElem?_eq_getElem (Nat.lt_of_lt_of_le hindex h.length_le)
    rcases h.call_cases Located.progress_nil htoken with
      ⟨start, next, range, hstart, -, -, hsought, hnext⟩ | ⟨hend, -⟩
    · rw [List.nil_append] at hstart hnext
      rw [hstart, hnext]
      exact Int.ofNat_le.mpr hsought.le
    · exact absurd hindex (Nat.not_lt.mpr hend)
  · have hall : calls.take index = calls.take (index + 1) := by
      rw [List.take_of_length_le hindex, List.take_of_length_le (Nat.le_succ_of_le hindex)]
    exact Int.le_of_eq (congrArg Located.progress hall)

/-- **The position never moves back.** -/
theorem progress_le (h : Searches source 0 tokens calls) {first second : Nat}
    (hle : first ≤ second) :
    Located.progress (calls.take first) ≤ Located.progress (calls.take second) := by
  induction hle with
  | refl => exact Int.le_refl _
  | step _ ih => exact Int.le_trans ih (h.progress_le_succ _)

/-- A token has a call just if all tokens before it have one and the position is in the source. -/
theorem lt_length_iff (h : Searches source 0 tokens calls) (htoken : tokens[index]? = some token) :
    index < calls.length ↔ (∀ before, before < index → before < calls.length) ∧
      Located.progress (calls.take index) < source.length := by
  have hbefore : (∀ before, before < index → before < calls.length) ↔ index ≤ calls.length :=
    ⟨fun hall => Nat.le_of_not_lt fun hlt => Nat.lt_irrefl _ (hall _ hlt),
      fun hle before hlt => Nat.lt_of_lt_of_le hlt hle⟩
  rw [hbefore]
  rcases h.call_cases Located.progress_nil htoken with
    ⟨start, next, range, hstart, hinside, hcall, -, -⟩ | ⟨hnone, hend⟩
  · obtain ⟨hindex, -⟩ := List.getElem?_eq_some_iff.mp hcall
    rw [List.nil_append] at hstart
    exact iff_of_true hindex ⟨Nat.le_of_lt hindex, hstart ▸ Int.ofNat_lt.mpr hinside⟩
  · refine iff_of_false (Nat.not_lt.mpr hnone) (not_and.mpr fun hle => ?_)
    exact Int.not_lt.mpr (hend (Nat.le_antisymm hnone hle))

/-- The call for a token tells what was found from the position before it. -/
theorem exists_sought (h : Searches source 0 tokens calls) (htoken : tokens[index]? = some token)
    {call : Located} (hcall : calls[index]? = some call) :
    ∃ start next : Nat, Located.progress (calls.take index) = start ∧ call.token = token ∧
      Sought source start token call.range next := by
  rcases h.call_cases Located.progress_nil htoken with
    ⟨start, next, range, hstart, -, hsome, hsought, -⟩ | ⟨hnone, -⟩
  · obtain rfl : ⟨range, token⟩ = call := Option.some.inj (hsome.symm.trans hcall)
    exact ⟨start, next, hstart, rfl, hsought⟩
  · rw [List.getElem?_eq_none hnone] at hcall
    cases hcall

end Searches

end Place

/-- **Every token is found at its first index from where the search has come to**, which is told
from the calls. A token has a call just if all tokens before it have one and the position is in the
source. Its range begins at the first index at which its payload stands, from that position on, and
it has none just if there is no such index. The position never moves back. -/
theorem mapRanges_leftmost {ε : Type} (source : Text) (tokens : List Token) :
    let calls := (mapRanges .codePoint .always () source tokens : Delivery Located ε).calls
    let position (index : Nat) : Int := Located.progress (calls.take index)
    calls.map Located.token <+: tokens ∧
      (∀ first second, first ≤ second → position first ≤ position second) ∧
      ∀ index token, tokens[index]? = some token →
        (index < calls.length ↔
            (∀ before, before < index → before < calls.length) ∧ position index < source.length) ∧
          ∀ call, calls[index]? = some call → call.token = token ∧
            (∀ start : Nat, call.range = ⟨start, token.payload.length⟩ ↔
              position index ≤ start ∧ token.payload.OccursAt source start ∧
                ∀ other : Nat, position index ≤ other → token.payload.OccursAt source other →
                  start ≤ other) ∧
            (call.range = .unresolved ↔
              ∀ start : Nat, position index ≤ start → ¬ token.payload.OccursAt source start) := by
  intro calls position
  have hcalls : calls = _ := calls_mapRanges_always .codePoint source tokens
  have hsearches : Place.Searches source 0 tokens calls :=
    hcalls ▸ Place.searches_located source tokens 0
  refine ⟨hcalls ▸ Place.map_token_located_isPrefix .codePoint _ tokens,
    fun first second => hsearches.progress_le, fun index token htoken =>
    ⟨hsearches.lt_length_iff htoken, fun call hcall => ?_⟩⟩
  obtain ⟨start, next, hstart, htoken, hsought⟩ := hsearches.exists_sought htoken hcall
  have hposition : position index = start := hstart
  simp only [hposition, Int.ofNat_le]
  exact ⟨htoken, hsought.range_eq_iff, hsought.range_eq_unresolved_iff⟩

/-- A payload that is lost takes the search to the end of the source, and no call is made for the
token behind it. -/
theorem mapRanges_leftmost_lost :
    let source : Text := Text.of "aabab"
    let tokens : List Token :=
      [⟨.name, Text.of "ab"⟩, ⟨.name, []⟩, ⟨.name, Text.of "zz"⟩, ⟨.name, Text.of "b"⟩]
    let calls := (mapRanges .codePoint .always () source tokens : Delivery Located Empty).calls
    calls = [⟨⟨1, 2⟩, ⟨.name, Text.of "ab"⟩⟩, ⟨⟨3, 0⟩, ⟨.name, []⟩⟩,
        ⟨.unresolved, ⟨.name, Text.of "zz"⟩⟩] ∧
      (∀ other : Nat, 0 ≤ (other : Int) → (Text.of "ab").OccursAt source other → 1 ≤ other) ∧
      (∀ start : Nat, 3 ≤ (start : Int) → ¬ (Text.of "zz").OccursAt source start) ∧
      ¬ Located.progress calls < source.length := by
  intro source tokens calls
  have hcalls : calls = [⟨⟨1, 2⟩, ⟨.name, Text.of "ab"⟩⟩, ⟨⟨3, 0⟩, ⟨.name, []⟩⟩,
      ⟨.unresolved, ⟨.name, Text.of "zz"⟩⟩] := by decide
  have hlength : calls.length = 3 := congrArg List.length hcalls
  have hprogress : Located.progress (calls.take 2) = 3 := by decide
  have htokens := (mapRanges_leftmost (ε := Empty) source tokens).2.2
  obtain ⟨-, hfound, -⟩ := (htokens 0 _ rfl).2 _ (congrArg (·[0]?) hcalls)
  obtain ⟨-, -, hlost⟩ := (htokens 2 _ rfl).2 _ (congrArg (·[2]?) hcalls)
  refine ⟨hcalls, ((hfound 1).mp rfl).2.2, fun start hstart => ?_, fun hlt => ?_⟩
  · exact hlost.mp rfl start (Int.le_trans (Int.le_of_eq hprogress) hstart)
  · have hcalled : 3 < calls.length :=
      (htokens 3 _ rfl).1.mpr ⟨fun before hbefore => hlength ▸ hbefore, hlt⟩
    exact Nat.lt_irrefl 3 (hlength ▸ hcalled)

end LexBridge
