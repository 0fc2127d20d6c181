import LexBridge.Proofs.Wire.Row
import Mathlib.Data.List.Forall2

/-!
# Payloads digit by digit

A payload is read in lower case, and of lower case only so much matters as digits can tell. The
capitals of ASCII have their small letters, all else of ASCII stays as it is, and the dotted capital
I becomes two characters. Every other character becomes one, and never a digit; which one it is, is
nowhere looked at. So lower case is taken here as a relation that leaves open what does not matter
(`Payload.LowerCase`), and the bytes of a payload are the same whichever text in lower case its body
is taken to be (`Payload.bytes_eq_pairs`).

From the body in lower case the bytes are read at even places: two digits are a byte, and any other
two characters are none. Bytes that are written in digits, small or capital ones, are read back, and
a body of nothing but digits is written back.

## Main definitions

* `Payload.digits`, `Payload.byteAt?`: the sixteen digits, and the byte at a place of a body.
* `Payload.LowerCase`: a text and what it may be in lower case.
* `Payload.spelled`: bytes in digits, each of them small or capital.

## Main results

* `Payload.bytes_eq_pairs`: only lower case as far as digits can tell matters.
* `Payload.pairs_eq_filterMap`: the bytes at even places.
* `Payload.flatMap_digitsOf_pairs`: digits are written back.
* `Payload.reads_exactly`: reading and writing in digits.
-/

namespace LexBridge.Payload

/-! ### Digits -/

/-- The sixteen digits in lower case, in the order of their values. -/
def digits : Text := Text.of "0123456789abcdef"

/-- The byte that two digits stand for. -/
def byteOf? (high low : CodePoint) : Option UInt8 :=
  match digits.idxOf? high, digits.idxOf? low with
  | some h, some l => some (.ofNat (16 * h + l))
  | _, _ => none

/-- The byte at a place of a body, if two digits stand there. -/
def byteAt? (body : Text) (place : Nat) : Option UInt8 :=
  body[place]?.bind fun high => body[place + 1]?.bind fun low => byteOf? high low

theorem digits_eq : digits = (List.range 16).map CodePoint.hexDigit := by decide

theorem idxOf?_hexDigit : ∀ n < 16, digits.idxOf? (CodePoint.hexDigit n) = some n := by decide

theorem digit?_eq_some_iff {c : CodePoint} {n : Nat} :
    digit? c = some n ↔ n < 16 ∧ c = CodePoint.hexDigit n := by
  constructor
  · intro h
    rw [digit?] at h
    have hc := c.isLt
    split at h
    · obtain rfl := Option.some.inj h
      refine ⟨by omega, Fin.ext ?_⟩
      rw [CodePoint.hexDigit, if_pos (by omega), Fin.val_ofNat, Nat.mod_eq_of_lt] <;> omega
    · split at h
      · obtain rfl := Option.some.inj h
        refine ⟨by omega, Fin.ext ?_⟩
        rw [CodePoint.hexDigit, if_neg (by omega), Fin.val_ofNat, Nat.mod_eq_of_lt] <;> omega
      · cases h
  · rintro ⟨hn, rfl⟩
    exact CodePoint.digit?_hexDigit n hn

theorem mem_digits_iff {c : CodePoint} : c ∈ digits ↔ ∃ n, digit? c = some n := by
  simp only [digits_eq, List.mem_map, List.mem_range, digit?_eq_some_iff, @eq_comm _ c]

theorem digit?_eq_none_iff {c : CodePoint} : digit? c = none ↔ c ∉ digits := by
  rw [mem_digits_iff, Option.eq_none_iff_forall_ne_some, not_exists]

/-- The value of a digit is its index. -/
theorem idxOf?_digits (c : CodePoint) : digits.idxOf? c = digit? c := by
  cases h : digit? c with
  | none => rw [List.idxOf?_eq_none_iff.mpr (digit?_eq_none_iff.mp h)]
  | some n =>
    obtain ⟨hn, rfl⟩ := digit?_eq_some_iff.mp h
    exact idxOf?_hexDigit n hn

/-! ### Lower case -/

/-- A text, and what it may be in lower case. Capitals of ASCII have their small letters, and the
dotted capital I becomes an i and a dot above it. Any other character beyond ASCII becomes some
character that is no digit. -/
inductive LowerCase : Text → Text → Prop
  | nil : LowerCase [] []
  | capital {c : CodePoint} {rest low : Text} (hc : 0x41 ≤ c.val ∧ c.val ≤ 0x5A)
      (h : LowerCase rest low) :
      LowerCase (c :: rest) (Fin.ofNat 0x110000 (c.val + 0x20) :: low)
  | ascii {c : CodePoint} {rest low : Text} (hc : ¬ (0x41 ≤ c.val ∧ c.val ≤ 0x5A))
      (hascii : c.val < 0x80) (h : LowerCase rest low) : LowerCase (c :: rest) (c :: low)
  | dotted {rest low : Text} (h : LowerCase rest low) :
      LowerCase (0x130 :: rest) (0x69 :: 0x307 :: low)
  | beyond {c d : CodePoint} {rest low : Text} (hascii : 0x80 ≤ c.val) (hdotted : c ≠ 0x130)
      (hd : d ∉ digits) (h : LowerCase rest low) : LowerCase (c :: rest) (d :: low)

variable {text low : Text} {c : CodePoint}

theorem lower_of_capital (hc : 0x41 ≤ c.val ∧ c.val ≤ 0x5A) :
    lower c = [Fin.ofNat 0x110000 (c.val + 0x20)] := if_pos hc

theorem lower_of_not_capital (hc : ¬ (0x41 ≤ c.val ∧ c.val ≤ 0x5A)) (hdotted : c ≠ 0x130) :
    lower c = [c] := by
  have hval : c.val ≠ 0x130 := fun h => hdotted (Fin.ext h)
  rw [lower, if_neg hc, if_neg hval]

/-- Beyond ASCII there are no digits. -/
theorem digit?_of_le (h : 0x80 ≤ c.val) : digit? c = none := by
  rw [digit?, if_neg (by omega), if_neg (by omega)]

/-- The lower case that is read is one of those that a text may have. -/
theorem lowerCase_flatMap_lower (text : Text) : LowerCase text (text.flatMap lower) := by
  induction text with
  | nil => exact .nil
  | cons c rest ih =>
    rw [List.flatMap_cons]
    by_cases hc : 0x41 ≤ c.val ∧ c.val ≤ 0x5A
    · rw [lower_of_capital hc]
      exact .capital hc ih
    by_cases hdotted : c = 0x130
    · subst hdotted
      exact .dotted ih
    rw [lower_of_not_capital hc hdotted]
    rcases Nat.lt_or_ge c.val 0x80 with hascii | hascii
    · exact .ascii hc hascii ih
    · exact .beyond hascii hdotted (digit?_eq_none_iff.mp (digit?_of_le hascii)) ih

/-- As far as digits can tell, a text has only one lower case. -/
theorem LowerCase.forall₂ (h : LowerCase text low) :
    List.Forall₂ (fun a b => digit? a = digit? b) (text.flatMap lower) low := by
  induction h with
  | nil => exact .nil
  | capital hc _ ih =>
    rw [List.flatMap_cons, lower_of_capital hc]
    exact .cons rfl ih
  | ascii hc hascii _ ih =>
    rw [List.flatMap_cons, lower_of_not_capital hc (by rintro rfl; exact absurd hascii (by decide))]
    exact .cons rfl ih
  | dotted _ ih => exact .cons rfl (.cons rfl ih)
  | beyond hascii hdotted hd _ ih =>
    rw [List.flatMap_cons, lower_of_not_capital (by omega) hdotted]
    exact .cons ((digit?_of_le hascii).trans (digit?_eq_none_iff.mpr hd).symm) ih

/-- Pairs are read by the values of digits alone. -/
theorem pairs_congr : ∀ {a : Text}, ∀ {b : Text},
    List.Forall₂ (fun a b => digit? a = digit? b) a b → pairs a = pairs b
  | [], _, h => by rw [List.forall₂_nil_left_iff.mp h]
  | [_], _, h => by
    obtain ⟨single, rest, -, hrest, rfl⟩ := List.forall₂_cons_left_iff.mp h
    rw [List.forall₂_nil_left_iff.mp hrest]
    rfl
  | high :: low :: a, _, h => by
    obtain ⟨high', rest, hhigh, hrest, rfl⟩ := List.forall₂_cons_left_iff.mp h
    obtain ⟨low', b, hlow, hbody, rfl⟩ := List.forall₂_cons_left_iff.mp hrest
    rw [pairs, pairs, hhigh, hlow, pairs_congr hbody]

/-- **The bytes of a field are those of its body in lower case**, whichever that is. -/
theorem bytes_eq_pairs {field : Text} (h : LowerCase (inner field) low) :
    Payload.bytes field = pairs low :=
  pairs_congr h.forall₂

/-! ### Bytes at even places -/

theorem pairs_cons_cons (high low : CodePoint) (body : Text) :
    pairs (high :: low :: body) = (byteOf? high low).toList ++ pairs body := by
  rw [pairs, byteOf?, idxOf?_digits, idxOf?_digits]
  cases digit? high <;> cases digit? low <;> rfl

/-- **A body is read at its even places**, each for itself. -/
theorem pairs_eq_filterMap : ∀ body : Text,
    pairs body = (List.range (body.length / 2)).filterMap fun place => byteAt? body (2 * place)
  | [] => rfl
  | [_] => by simp [pairs]
  | high :: low :: body => by
    have hplaces : (high :: low :: body).length / 2 = body.length / 2 + 1 := by
      rw [List.length_cons, List.length_cons]
      omega
    have hrest : ∀ place, byteAt? (high :: low :: body) (2 * (place + 1)) =
        byteAt? body (2 * place) := fun _ => rfl
    have hfirst : byteAt? (high :: low :: body) (2 * 0) = byteOf? high low := rfl
    rw [pairs_cons_cons, pairs_eq_filterMap body, hplaces, List.range_succ_eq_map,
      List.filterMap_cons, hfirst, List.filterMap_map]
    cases byteOf? high low <;> simp [hrest]

/-! ### Bytes in digits -/

/-- Two digits are written back. -/
theorem digitsOf_of_byteOf? {high low : CodePoint} (hhigh : high ∈ digits) (hlow : low ∈ digits) :
    ∃ byte, byteOf? high low = some byte ∧ digitsOf byte = [high, low] := by
  obtain ⟨h, hh⟩ := mem_digits_iff.mp hhigh
  obtain ⟨l, hl⟩ := mem_digits_iff.mp hlow
  obtain ⟨hlt, rfl⟩ := digit?_eq_some_iff.mp hh
  obtain ⟨llt, rfl⟩ := digit?_eq_some_iff.mp hl
  refine ⟨.ofNat (16 * h + l), ?_, ?_⟩
  · rw [byteOf?, idxOf?_digits, idxOf?_digits, hh, hl]
  · have hnat : (UInt8.ofNat (16 * h + l)).toNat = 16 * h + l := by
      rw [UInt8.toNat_ofNat', Nat.mod_eq_of_lt]
      omega
    rw [digitsOf_eq, hnat, show (16 * h + l) / 16 = h by omega, show (16 * h + l) % 16 = l by omega]

/-- **A body of digits is written back.** -/
theorem flatMap_digitsOf_pairs : ∀ {body : Text}, body.length % 2 = 0 → (∀ c ∈ body, c ∈ digits) →
    (pairs body).flatMap digitsOf = body
  | [], _, _ => rfl
  | [_], heven, _ => absurd heven (by simp)
  | high :: low :: body, heven, hdigits => by
    obtain ⟨hhigh, hlow, hbody⟩ : high ∈ digits ∧ low ∈ digits ∧ ∀ c ∈ body, c ∈ digits := by
      simpa using hdigits
    have hrest : body.length % 2 = 0 := by
      rw [List.length_cons, List.length_cons] at heven
      omega
    obtain ⟨byte, hbyte, hback⟩ := digitsOf_of_byteOf? hhigh hlow
    rw [pairs_cons_cons, hbyte, Option.toList_some, List.singleton_append, List.flatMap_cons, hback,
      flatMap_digitsOf_pairs hrest hbody]
    rfl

/-- The digits of ASCII, small and capital ones. -/
def anyDigits : Text := Text.of "0123456789abcdefABCDEF"

theorem lower_mem_digits {c : CodePoint} (h : c ∈ anyDigits) : c.val < 0x80 ∧
    (if 0x41 ≤ c.val ∧ c.val ≤ 0x5A then Fin.ofNat 0x110000 (c.val + 0x20) else c) ∈ digits := by
  have hall : (anyDigits.all fun c => c.val < 0x80 ∧
      (if 0x41 ≤ c.val ∧ c.val ≤ 0x5A then Fin.ofNat 0x110000 (c.val + 0x20) else c) ∈
        digits) = true := by decide
  simpa using List.all_eq_true.mp hall c h

/-- A text of digits has as many of them in lower case. -/
theorem LowerCase.of_anyDigits (h : LowerCase text low) (htext : ∀ c ∈ text, c ∈ anyDigits) :
    low.length = text.length ∧ ∀ c ∈ low, c ∈ digits := by
  induction h with
  | nil => exact ⟨rfl, fun c hc => absurd hc List.not_mem_nil⟩
  | capital hc _ ih | ascii hc _ _ ih =>
    obtain ⟨hfirst, hrest⟩ := List.forall_mem_cons.mp htext
    obtain ⟨hlength, hlow⟩ := ih hrest
    have hdigit := (lower_mem_digits hfirst).2
    simp only [hc, and_self, if_true, if_false] at hdigit
    exact ⟨congrArg (· + 1) hlength, List.forall_mem_cons.mpr ⟨hdigit, hlow⟩⟩
  | dotted _ _ => exact absurd (lower_mem_digits (htext _ List.mem_cons_self)).1 (by decide)
  | beyond hascii _ _ _ _ =>
    exact absurd (lower_mem_digits (htext _ List.mem_cons_self)).1 (Nat.not_lt.mpr hascii)

/-- The capital of a small letter of ASCII; other characters stay. -/
def capital (c : CodePoint) : CodePoint :=
  if 0x61 ≤ c.val ∧ c.val ≤ 0x7A then Fin.ofNat 0x110000 (c.val - 0x20) else c

/-- Bytes in digits, with a capital in the places that are chosen for one. -/
def spelled (bytes : List UInt8) (chosen : Nat → Bool) : Text :=
  (bytes.flatMap digitsOf).mapIdx fun place c => if chosen place then capital c else c

theorem lower_capital_hexDigit :
    ∀ n < 16, lower (capital (CodePoint.hexDigit n)) = [CodePoint.hexDigit n] := by decide

/-- Capitals do not show in lower case. -/
theorem flatMap_lower_mapIdx {body : Text} (hbody : ∀ c ∈ body, lower c = [c])
    (hcapital : ∀ c ∈ body, lower (capital c) = [c]) (chosen : Nat → Bool) :
    (body.mapIdx fun place c => if chosen place then capital c else c).flatMap lower = body := by
  induction body generalizing chosen with
  | nil => rfl
  | cons c body ih =>
    obtain ⟨hc, hrest⟩ := List.forall_mem_cons.mp hbody
    obtain ⟨hcap, hrestCap⟩ := List.forall_mem_cons.mp hcapital
    rw [List.mapIdx_cons, List.flatMap_cons, ih hrest hrestCap fun place => chosen (place + 1)]
    split
    · rw [hcap, List.singleton_append]
    · rw [hc, List.singleton_append]

/-- Bytes in digits have the same lower case, whatever capitals they are spelled with. -/
theorem flatMap_lower_spelled (bytes : List UInt8) (chosen : Nat → Bool) :
    (spelled bytes chosen).flatMap lower = bytes.flatMap digitsOf :=
  flatMap_lower_mapIdx (forall_mem_digitsOf CodePoint.lower_hexDigit bytes)
    (forall_mem_digitsOf lower_capital_hexDigit bytes) chosen

/-- **Bytes are read back from their digits**, small or capital ones. -/
theorem bytes_spelled (bytes : List UInt8) (chosen : Nat → Bool) (first last : CodePoint) :
    Payload.bytes (first :: (spelled bytes chosen ++ [last])) = bytes := by
  have hlower : (bytes.flatMap digitsOf).flatMap lower = bytes.flatMap digitsOf := calc
    _ = (bytes.flatMap digitsOf).flatMap ([·]) :=
      List.flatMap_congr (forall_mem_digitsOf CodePoint.lower_hexDigit bytes)
    _ = bytes.flatMap digitsOf := List.flatMap_singleton' _
  rw [bytes_wrapped, flatMap_lower_spelled, ← hlower, pairs_flatMap_lower_digitsOf]

theorem isWellFormed_spelled (bytes : List UInt8) (chosen : Nat → Bool) (first last : CodePoint) :
    isWellFormed (first :: (spelled bytes chosen ++ [last])) = true := by
  rw [isWellFormed_wrapped, spelled, List.length_mapIdx, length_flatMap_digitsOf,
    decide_eq_true_eq]
  exact Nat.mul_mod_right 2 _

/-- **Payloads are read exactly.** Bytes in digits, each of them small or capital, between any two
wrapper characters are a well-formed payload, from which they are read. From a payload whose body is
nothing but digits come bytes that are written with that body in lower case. And whatever a field
holds, its bytes are those at the even places of its body in lower case where there are two digits,
so that a bad pair takes away its own byte and no other. -/
theorem reads_exactly :
    (∀ (bytes : List UInt8) (chosen : Nat → Bool) (first last : CodePoint),
        let field := first :: (spelled bytes chosen ++ [last])
        isWellFormed field = true ∧ Payload.bytes field = bytes) ∧
      (∀ field low, isWellFormed field = true → (∀ c ∈ inner field, c ∈ anyDigits) →
        LowerCase (inner field) low → (Payload.bytes field).flatMap digitsOf = low) ∧
      ∀ field, (∃ low, LowerCase (inner field) low) ∧
        ∀ low, LowerCase (inner field) low → Payload.bytes field =
          (List.range (low.length / 2)).filterMap fun place => byteAt? low (2 * place) := by
  refine ⟨fun bytes chosen first last => ⟨isWellFormed_spelled bytes chosen first last,
    bytes_spelled bytes chosen first last⟩, fun field low hfield hinner hlow => ?_,
    fun field => ⟨⟨_, lowerCase_flatMap_lower (inner field)⟩, fun low hlow => ?_⟩⟩
  · obtain ⟨hlength, hdigits⟩ := hlow.of_anyDigits hinner
    have heven : low.length % 2 = 0 := by
      simp only [isWellFormed, Bool.and_eq_true, decide_eq_true_eq] at hfield
      rw [hlength, inner, List.length_dropLast, List.length_drop]
      omega
    rw [bytes_eq_pairs hlow, flatMap_digitsOf_pairs heven hdigits]
  · rw [bytes_eq_pairs hlow, pairs_eq_filterMap]

/-- A capital digit is read as its small letter, and is written as that. The dotted capital I takes
two places, neither of them a digit; the pair after them is read. -/
theorem reads_exactly_dotted :
    let field := Text.of "'4A6b'"
    (isWellFormed field = true ∧ Payload.bytes field = [0x4A, 0x6B]) ∧
      (Payload.bytes field).flatMap digitsOf = Text.of "4a6b" ∧
      Payload.bytes [0x27, 0x130, 0x34, 0x41, 0x27] = [0x4A] := by
  intro field
  have hfield : field = 0x27 :: (spelled [0x4A, 0x6B] (· == 1) ++ [0x27]) := by decide
  have hinner : inner field = [0x34, 0x41, 0x36, 0x62] := by decide
  have hlow : LowerCase (inner field) (Text.of "4a6b") := by
    have hsmall : Text.of "4a6b" = [0x34, 0x61, 0x36, 0x62] := by decide
    rw [hinner, hsmall]
    exact .ascii (by decide) (by decide) <| .capital (by decide) <|
      .ascii (by decide) (by decide) <| .ascii (by decide) (by decide) .nil
  have hdigits : ∀ c ∈ inner field, c ∈ anyDigits := by
    have hall : ((inner field).all fun c => c ∈ anyDigits) = true := by decide
    simpa using List.all_eq_true.mp hall
  have hdotted : LowerCase (inner [0x27, 0x130, 0x34, 0x41, 0x27]) [0x69, 0x307, 0x34, 0x61] :=
    .dotted <| .ascii (by decide) (by decide) <| .capital (by decide) .nil
  obtain ⟨hread, hwritten, hplaces⟩ := reads_exactly
  have hspelled := hread [0x4A, 0x6B] (· == 1) 0x27 0x27
  refine ⟨hfield ▸ hspelled, hwritten field _ (hfield ▸ hspelled.1) hdigits hlow, ?_⟩
  rw [(hplaces _).2 _ hdotted]
  decide

end LexBridge.Payload
