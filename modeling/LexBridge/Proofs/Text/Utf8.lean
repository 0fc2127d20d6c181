import LexBridge.Text.Utf8
import Mathlib.Data.List.TakeWhile

/-!
# Reading back what UTF-8 writes

The machine that reads UTF-8 and the function that writes it fit together exactly: bytes are read
as a text just if the text has no surrogate and is written as these bytes. So a reading loses
nothing, adds nothing, and every text has one written form.

A byte below 128 is a character by itself. Any other character is *opened* by a first byte and
*completed* by the bytes behind it, each of them within the bounds that the state of the machine
sets. What the machine finds first in any bytes is then either a character with all the bytes that
are written for it, or a faulty stretch (`scan_cases`).

## Main definitions

* `Utf8.Writable`: a text without surrogates.
* `Utf8.Opens`, `Utf8.Completes`: the first byte of a character of several bytes, and the others.
* `Utf8.Namable`: a text that can name a file.

## Main results

* `Utf8.encode?_eq_ok_iff`: which texts can be written.
* `Utf8.scan_encodeOne`: a written character is read back, whatever follows it.
* `Utf8.decode_eq_ok_iff`, `Utf8.decode?_eq_some_iff`: which bytes are read as a text.
* `Utf8.isPrefix_of_encode`: a beginning of written bytes is read as a beginning of the text.
* `Utf8.eq_of_encode_isSuffix`: bytes at the end of written bytes are not those of another text of
  the same length.
* `Utf8.encodeName?_eq_ok_iff`: which texts can be written as the name of a file.
* `Utf8.encodeName?_decodeName`: the text of a name can be written, as that name.
-/

namespace LexBridge

/-- Every character is a code point. -/
theorem CodePoint.val_ofChar (c : Char) : (ofChar c).val = c.toNat := by
  have hbound : c.toNat < 0x110000 := by
    rcases c.valid with hlow | ⟨-, hhigh⟩
    · exact Nat.lt_trans hlow (by decide)
    · exact hhigh
  exact Nat.mod_eq_of_lt hbound

namespace Utf8

/-! ### Writing -/

/-- A text that can be written: it holds no surrogate. -/
def Writable (text : Text) : Prop := ∀ c ∈ text, c.isSurrogate = false

instance (text : Text) : Decidable (Writable text) :=
  List.decidableBAll (fun c : CodePoint => c.isSurrogate = false) text

theorem Writable.nil : Writable [] := fun _ hc => absurd hc List.not_mem_nil

@[simp] theorem writable_cons_iff {c : CodePoint} {text : Text} :
    Writable (c :: text) ↔ c.isSurrogate = false ∧ Writable text :=
  List.forall_mem_cons

@[simp] theorem writable_append_iff {a b : Text} :
    Writable (a ++ b) ↔ Writable a ∧ Writable b :=
  List.forall_mem_append

/-- What a literal writes can be written, since no character is a surrogate. -/
@[simp] theorem writable_of (s : String) : Writable (Text.of s) := by
  intro c hc
  obtain ⟨character, -, rfl⟩ := List.mem_map.mp hc
  have hvalid : character.toNat.isValidChar := character.valid
  simp only [Nat.isValidChar] at hvalid
  simp only [CodePoint.isSurrogate, CodePoint.val_ofChar, Bool.and_eq_false_iff,
    decide_eq_false_iff_not]
  omega

@[simp] theorem encode_nil : encode [] = [] := rfl

@[simp] theorem encode_cons (c : CodePoint) (text : Text) :
    encode (c :: text) = encodeOne c ++ encode text := rfl

@[simp] theorem encode_append (a b : Text) : encode (a ++ b) = encode a ++ encode b :=
  List.flatMap_append

theorem encodeOne_ne_nil (c : CodePoint) : encodeOne c ≠ [] := by
  simp only [encodeOne]
  split_ifs <;> exact List.cons_ne_nil _ _

@[simp] theorem encode_eq_nil_iff {text : Text} : encode text = [] ↔ text = [] := by
  cases text with
  | nil => simp
  | cons c text => simp [encodeOne_ne_nil]

/-- There is no row of surrogates from one that is not allowed just if everything is allowed. -/
theorem SurrogateRun.first?_eq_none_iff {isAllowed : CodePoint → Bool} {text : Text} :
    SurrogateRun.first? isAllowed text = none ↔ ∀ c ∈ text, isAllowed c = true := by
  rw [SurrogateRun.first?, ← List.dropWhile_eq_nil_iff]
  cases text.dropWhile isAllowed <;> simp

/-- There is a first row of surrogates in a text unless it can be written. -/
theorem surrogateRun?_eq_none_iff {text : Text} : surrogateRun? text = none ↔ Writable text := by
  rw [surrogateRun?, SurrogateRun.first?_eq_none_iff]
  exact forall₂_congr fun c _ => by simp

/-- Just the texts without surrogates are written. -/
theorem encode?_eq_ok_iff {text : Text} {bytes : List UInt8} :
    encode? text = .ok bytes ↔ Writable text ∧ encode text = bytes := by
  rw [← surrogateRun?_eq_none_iff, encode?]
  cases surrogateRun? text <;> simp

theorem encode?_of_writable {text : Text} (h : Writable text) : encode? text = .ok (encode text) :=
  encode?_eq_ok_iff.mpr ⟨h, rfl⟩

/-! ### Characters of several bytes -/

/-- Whether a byte lies within the bounds for the next byte of a character. -/
def Begun.Admits (begun : Begun) (b : UInt8) : Prop :=
  begun.low ≤ b.toNat ∧ b.toNat ≤ begun.high

/-- The state after a byte that continues a character without completing it. -/
def Begun.push (begun : Begun) (b : UInt8) (more : Nat) : Begun :=
  ⟨begun.bytes ++ [b], begun.bits * 0x40 + (b.toNat - 0x80), 0x80, 0xBF, more⟩

/-- The first byte of a character of two, three or four bytes, with the state it leads to. -/
inductive Opens (a : UInt8) : Begun → Prop
  | two (low : 0xC2 ≤ a.toNat) (high : a.toNat < 0xE0) :
      Opens a ⟨[a], a.toNat - 0xC0, 0x80, 0xBF, 0⟩
  | three (low : 0xE0 ≤ a.toNat) (high : a.toNat < 0xF0) :
      Opens a ⟨[a], a.toNat - 0xE0, if a.toNat = 0xE0 then 0xA0 else 0x80,
        if a.toNat = 0xED then 0x9F else 0xBF, 1⟩
  | four (low : 0xF0 ≤ a.toNat) (high : a.toNat < 0xF5) :
      Opens a ⟨[a], a.toNat - 0xF0, if a.toNat = 0xF0 then 0x90 else 0x80,
        if a.toNat = 0xF4 then 0x8F else 0xBF, 2⟩

/-- The bytes that complete a character, with the number of the character. -/
inductive Completes : Begun → List UInt8 → Nat → Prop
  | last {begun : Begun} {b : UInt8} {n : Nat} (hb : begun.Admits b) (hm : begun.more = 0)
      (hn : n = begun.bits * 0x40 + (b.toNat - 0x80)) : Completes begun [b] n
  | next {begun : Begun} {b : UInt8} {more : Nat} {tail : List UInt8} {n : Nat}
      (hb : begun.Admits b) (hm : begun.more = more + 1)
      (h : Completes (begun.push b more) tail n) : Completes begun (b :: tail) n

theorem Opens.start_eq {a : UInt8} {begun : Begun} (h : Opens a begun) :
    start a = ([], some begun) := by
  cases h with
  | two low high => rw [start, if_neg (by omega), if_neg (by omega), if_pos high]
  | three low high =>
    rw [start, if_neg (by omega), if_neg (by omega), if_neg (by omega), if_pos high]
  | four low high =>
    rw [start, if_neg (by omega), if_neg (by omega), if_neg (by omega), if_neg (by omega),
      if_pos high]

/-- Everything that a byte may be where a character begins: a character by itself, the first byte
of a longer one, or faulty. -/
theorem start_cases (a : UInt8) :
    (a.toNat < 0x80 ∧ start a = ([.character (Fin.ofNat 0x110000 a.toNat)], none)) ∨
      (∃ begun, Opens a begun) ∨
        0x80 ≤ a.toNat ∧ start a = ([.faulty .startByte [a]], none) := by
  rcases Nat.lt_or_ge a.toNat 0x80 with h | h1
  · exact Or.inl ⟨h, by rw [start, if_pos h]⟩
  rcases Nat.lt_or_ge a.toNat 0xC2 with h | h2
  · exact Or.inr (Or.inr ⟨h1, by rw [start, if_neg (by omega), if_pos h]⟩)
  rcases Nat.lt_or_ge a.toNat 0xE0 with h | h3
  · exact Or.inr (Or.inl ⟨_, .two h2 h⟩)
  rcases Nat.lt_or_ge a.toNat 0xF0 with h | h4
  · exact Or.inr (Or.inl ⟨_, .three h3 h⟩)
  rcases Nat.lt_or_ge a.toNat 0xF5 with h | h5
  · exact Or.inr (Or.inl ⟨_, .four h4 h⟩)
  · refine Or.inr (Or.inr ⟨h1, ?_⟩)
    rw [start, if_neg (by omega), if_neg (by omega), if_neg (by omega), if_neg (by omega),
      if_neg (by omega)]

/-! #### The bytes of a character and its number -/

private theorem ofNat_eq_of_toNat {n : Nat} {b : UInt8} (h : n = b.toNat) :
    UInt8.ofNat n = b := by
  rw [h, UInt8.ofNat_toNat]

private theorem toNat_ofNat_of_lt {n : Nat} (h : n < 256) : (UInt8.ofNat n).toNat = n :=
  UInt8.toNat_ofNat_of_lt' h

private theorem isSurrogate_eq_false_iff {c : CodePoint} :
    c.isSurrogate = false ↔ c.val < 0xD800 ∨ 0xDFFF < c.val := by
  simp only [CodePoint.isSurrogate, Bool.and_eq_false_iff, decide_eq_false_iff_not]
  omega

private theorem encodeOne_two {a b : UInt8} {n : Nat} (ha : 0xC2 ≤ a.toNat)
    (ha' : a.toNat < 0xE0) (hb : 0x80 ≤ b.toNat ∧ b.toNat ≤ 0xBF)
    (hn : n = (a.toNat - 0xC0) * 0x40 + (b.toNat - 0x80)) :
    CodePoint.isSurrogate (Fin.ofNat 0x110000 n) = false ∧
      encodeOne (Fin.ofNat 0x110000 n) = [a, b] := by
  have hval : (Fin.ofNat 0x110000 n).val = n := Nat.mod_eq_of_lt (by omega)
  refine ⟨isSurrogate_eq_false_iff.mpr (by omega), ?_⟩
  simp only [encodeOne, hval]
  rw [if_neg (by omega), if_pos (by omega), ofNat_eq_of_toNat (b := a) (by omega),
    ofNat_eq_of_toNat (b := b) (by omega)]

private theorem encodeOne_three {a b c : UInt8} {n : Nat} (ha : 0xE0 ≤ a.toNat)
    (ha' : a.toNat < 0xF0) (hlow : a.toNat = 0xE0 → 0xA0 ≤ b.toNat)
    (hhigh : a.toNat = 0xED → b.toNat ≤ 0x9F) (hb : 0x80 ≤ b.toNat ∧ b.toNat ≤ 0xBF)
    (hc : 0x80 ≤ c.toNat ∧ c.toNat ≤ 0xBF)
    (hn : n = ((a.toNat - 0xE0) * 0x40 + (b.toNat - 0x80)) * 0x40 + (c.toNat - 0x80)) :
    CodePoint.isSurrogate (Fin.ofNat 0x110000 n) = false ∧
      encodeOne (Fin.ofNat 0x110000 n) = [a, b, c] := by
  have hval : (Fin.ofNat 0x110000 n).val = n := Nat.mod_eq_of_lt (by omega)
  refine ⟨isSurrogate_eq_false_iff.mpr (by omega), ?_⟩
  simp only [encodeOne, hval]
  rw [if_neg (by omega), if_neg (by omega), if_pos (by omega),
    ofNat_eq_of_toNat (b := a) (by omega), ofNat_eq_of_toNat (b := b) (by omega),
    ofNat_eq_of_toNat (b := c) (by omega)]

private theorem encodeOne_four {a b c d : UInt8} {n : Nat} (ha : 0xF0 ≤ a.toNat)
    (ha' : a.toNat < 0xF5) (hlow : a.toNat = 0xF0 → 0x90 ≤ b.toNat)
    (hhigh : a.toNat = 0xF4 → b.toNat ≤ 0x8F) (hb : 0x80 ≤ b.toNat ∧ b.toNat ≤ 0xBF)
    (hc : 0x80 ≤ c.toNat ∧ c.toNat ≤ 0xBF) (hd : 0x80 ≤ d.toNat ∧ d.toNat ≤ 0xBF)
    (hn : n = (((a.toNat - 0xF0) * 0x40 + (b.toNat - 0x80)) * 0x40 + (c.toNat - 0x80)) * 0x40 +
      (d.toNat - 0x80)) :
    CodePoint.isSurrogate (Fin.ofNat 0x110000 n) = false ∧
      encodeOne (Fin.ofNat 0x110000 n) = [a, b, c, d] := by
  have hval : (Fin.ofNat 0x110000 n).val = n := Nat.mod_eq_of_lt (by omega)
  refine ⟨isSurrogate_eq_false_iff.mpr (by omega), ?_⟩
  simp only [encodeOne, hval]
  rw [if_neg (by omega), if_neg (by omega), if_neg (by omega),
    ofNat_eq_of_toNat (b := a) (by omega), ofNat_eq_of_toNat (b := b) (by omega),
    ofNat_eq_of_toNat (b := c) (by omega), ofNat_eq_of_toNat (b := d) (by omega)]

theorem Completes.of_more_eq_zero {begun : Begun} {tail : List UInt8} {n : Nat}
    (h : Completes begun tail n) (hm : begun.more = 0) :
    ∃ b, begun.Admits b ∧ tail = [b] ∧ n = begun.bits * 0x40 + (b.toNat - 0x80) := by
  cases h with
  | last hb _ hn => exact ⟨_, hb, rfl, hn⟩
  | next _ hm' _ => omega

theorem Completes.of_more_eq_succ {begun : Begun} {tail : List UInt8} {n more : Nat}
    (h : Completes begun tail n) (hm : begun.more = more + 1) :
    ∃ b tail', begun.Admits b ∧ tail = b :: tail' ∧ Completes (begun.push b more) tail' n := by
  cases h with
  | last _ hm' _ => omega
  | next hb hm' h =>
    obtain rfl : _ = more := Nat.succ.inj (hm'.symm.trans hm)
    exact ⟨_, _, hb, rfl, h⟩

/-- A completed character is no surrogate, and the bytes that were read are those written for it.
The bounds of the machine are just what this takes: they shut out overlong forms, surrogates and
numbers that are too great. -/
theorem encodeOne_of_completes {a : UInt8} {begun : Begun} {tail : List UInt8} {n : Nat}
    (ho : Opens a begun) (h : Completes begun tail n) :
    CodePoint.isSurrogate (Fin.ofNat 0x110000 n) = false ∧
      encodeOne (Fin.ofNat 0x110000 n) = a :: tail := by
  cases ho with
  | two low high =>
    obtain ⟨b, hb, rfl, hn⟩ := h.of_more_eq_zero rfl
    exact encodeOne_two low high hb hn
  | three low high =>
    obtain ⟨b, _, hb, rfl, htail⟩ := h.of_more_eq_succ rfl
    obtain ⟨c, hc, rfl, hn⟩ := htail.of_more_eq_zero rfl
    simp only [Begun.Admits] at hb
    split_ifs at hb <;>
      exact encodeOne_three low high (by omega) (by omega) (by omega) hc hn
  | four low high =>
    obtain ⟨b, _, hb, rfl, htail⟩ := h.of_more_eq_succ rfl
    obtain ⟨c, _, hc, rfl, hlast⟩ := htail.of_more_eq_succ rfl
    obtain ⟨d, hd, rfl, hn⟩ := hlast.of_more_eq_zero rfl
    simp only [Begun.Admits] at hb
    split_ifs at hb <;>
      exact encodeOne_four low high (by omega) (by omega) (by omega) hc hd hn

/-- A character beyond the first 128 is opened and completed by the bytes written for it. -/
theorem completes_encodeOne {c : CodePoint} (hc : c.isSurrogate = false) (hlong : 0x80 ≤ c.val) :
    ∃ a begun tail, encodeOne c = a :: tail ∧ Opens a begun ∧ Completes begun tail c.val := by
  rw [isSurrogate_eq_false_iff] at hc
  have hlt := c.isLt
  rcases Nat.lt_or_ge c.val 0x800 with h2 | h2
  · have ha := toNat_ofNat_of_lt (n := 0xC0 + c.val / 0x40) (by omega)
    have hb := toNat_ofNat_of_lt (n := 0x80 + c.val % 0x40) (by omega)
    refine ⟨_, _, _, by rw [encodeOne, if_neg (by omega), if_pos h2], .two (by omega) (by omega),
      .last ⟨?_, ?_⟩ rfl ?_⟩ <;> simp only [ha, hb] <;> omega
  rcases Nat.lt_or_ge c.val 0x10000 with h3 | h3
  · have ha := toNat_ofNat_of_lt (n := 0xE0 + c.val / 0x1000) (by omega)
    have hb := toNat_ofNat_of_lt (n := 0x80 + c.val / 0x40 % 0x40) (by omega)
    have hd := toNat_ofNat_of_lt (n := 0x80 + c.val % 0x40) (by omega)
    refine ⟨_, _, _, by rw [encodeOne, if_neg (by omega), if_neg (by omega), if_pos h3],
      .three (by omega) (by omega), .next ⟨?_, ?_⟩ rfl (.last ⟨?_, ?_⟩ rfl ?_)⟩ <;>
      simp only [Begun.push, ha, hb, hd] <;> (try split_ifs) <;> omega
  · have ha := toNat_ofNat_of_lt (n := 0xF0 + c.val / 0x40000) (by omega)
    have hb := toNat_ofNat_of_lt (n := 0x80 + c.val / 0x1000 % 0x40) (by omega)
    have hd := toNat_ofNat_of_lt (n := 0x80 + c.val / 0x40 % 0x40) (by omega)
    have he := toNat_ofNat_of_lt (n := 0x80 + c.val % 0x40) (by omega)
    refine ⟨_, _, _, by rw [encodeOne, if_neg (by omega), if_neg (by omega), if_neg (by omega)],
      .four (by omega) (by omega),
      .next ⟨?_, ?_⟩ rfl (.next ⟨?_, ?_⟩ rfl (.last ⟨?_, ?_⟩ rfl ?_))⟩ <;>
      simp only [Begun.push, ha, hb, hd, he] <;> (try split_ifs) <;> omega

/-! ### Reading -/

theorem scan_some_cons_of_last {begun : Begun} {b : UInt8} (hb : begun.Admits b)
    (hm : begun.more = 0) (rest : List UInt8) :
    scan (some begun) (b :: rest) =
      .character (Fin.ofNat 0x110000 (begun.bits * 0x40 + (b.toNat - 0x80))) ::
        scan none rest := by
  unfold Begun.Admits at hb
  rw [scan, step, if_pos hb, hm]
  rfl

theorem scan_some_cons_of_next {begun : Begun} {b : UInt8} {more : Nat} (hb : begun.Admits b)
    (hm : begun.more = more + 1) (rest : List UInt8) :
    scan (some begun) (b :: rest) = scan (some (begun.push b more)) rest := by
  unfold Begun.Admits at hb
  rw [scan, step, if_pos hb, hm]
  rfl

theorem scan_some_cons_of_not_admits {begun : Begun} {b : UInt8} (hb : ¬ begun.Admits b)
    (rest : List UInt8) :
    scan (some begun) (b :: rest) =
      .faulty .continuation begun.bytes :: scan none (b :: rest) := by
  unfold Begun.Admits at hb
  rw [scan, step, if_neg hb]
  rfl

theorem Opens.bytes_eq {a : UInt8} {begun : Begun} (h : Opens a begun) : begun.bytes = [a] := by
  cases h <;> rfl

theorem Opens.scan_cons {a : UInt8} {begun : Begun} (h : Opens a begun) (rest : List UInt8) :
    scan none (a :: rest) = scan (some begun) rest := by
  rw [scan, step, h.start_eq]
  rfl

theorem Completes.scan_append {begun : Begun} {tail : List UInt8} {n : Nat}
    (h : Completes begun tail n) (rest : List UInt8) :
    scan (some begun) (tail ++ rest) = .character (Fin.ofNat 0x110000 n) :: scan none rest := by
  induction h with
  | last hb hm hn => rw [List.singleton_append, scan_some_cons_of_last hb hm, hn]
  | next hb hm _ ih => rw [List.cons_append, scan_some_cons_of_next hb hm, ih]

/-- A character of several bytes: some are read, and none of them is a character by itself, nor will
any of the others be. -/
structure Begun.IsLong (begun : Begun) : Prop where
  bytes_ne_nil : begun.bytes ≠ []
  high_bytes : ∀ b ∈ begun.bytes, 0x80 ≤ b.toNat
  high_low : 0x80 ≤ begun.low

theorem Opens.isLong {a : UInt8} {begun : Begun} (h : Opens a begun) : begun.IsLong := by
  cases h with
  | two low high =>
    exact ⟨List.cons_ne_nil _ _, List.forall_mem_singleton.mpr (by omega), Nat.le_refl _⟩
  | three low high =>
    exact ⟨List.cons_ne_nil _ _, List.forall_mem_singleton.mpr (by omega),
      by dsimp only; split_ifs <;> omega⟩
  | four low high =>
    exact ⟨List.cons_ne_nil _ _, List.forall_mem_singleton.mpr (by omega),
      by dsimp only; split_ifs <;> omega⟩

theorem Begun.IsLong.push {begun : Begun} {b : UInt8} (h : begun.IsLong) (hb : begun.Admits b)
    (more : Nat) : (begun.push b more).IsLong where
  bytes_ne_nil := List.append_ne_nil_of_right_ne_nil _ (List.cons_ne_nil _ _)
  high_bytes := by
    rw [Begun.push, List.forall_mem_append, List.forall_mem_singleton]
    exact ⟨h.high_bytes, h.high_low.trans hb.1⟩
  high_low := Nat.le_refl _

/-- A faulty stretch is what the machine finds first when it has read some bytes already and gets
others: no byte of the stretch is a character by itself, and behind it reading starts afresh. -/
def FindsFaulty (state : Option Begun) (front bytes : List UInt8) : Prop :=
  ∃ flaw stretch rest, stretch ≠ [] ∧ (∀ b ∈ stretch, 0x80 ≤ b.toNat) ∧
    front ++ bytes = stretch ++ rest ∧ scan state bytes = .faulty flaw stretch :: scan none rest

/-- The machine within a character: either the bytes complete it, or it is faulty. -/
theorem completes_or_faulty (bytes : List UInt8) {begun : Begun} (hlong : begun.IsLong) :
    (∃ tail rest n, bytes = tail ++ rest ∧ Completes begun tail n) ∨
      FindsFaulty (some begun) begun.bytes bytes := by
  induction bytes generalizing begun with
  | nil =>
    exact Or.inr ⟨.truncated, begun.bytes, [], hlong.bytes_ne_nil, hlong.high_bytes, rfl, rfl⟩
  | cons b bytes ih =>
    by_cases hb : begun.Admits b
    · cases hm : begun.more with
      | zero => exact Or.inl ⟨[b], bytes, _, rfl, .last hb hm rfl⟩
      | succ more =>
        rcases ih (hlong.push hb more) with ⟨tail, rest, n, rfl, h⟩ | h
        · exact Or.inl ⟨b :: tail, rest, n, rfl, .next hb hm h⟩
        · obtain ⟨flaw, stretch, rest, hne, hhigh, hsplit, hscan⟩ := h
          refine Or.inr ⟨flaw, stretch, rest, hne, hhigh, ?_, ?_⟩
          · rw [← hsplit, Begun.push, List.append_assoc, List.singleton_append]
          · rw [scan_some_cons_of_next hb hm, hscan]
    · exact Or.inr ⟨.continuation, begun.bytes, b :: bytes, hlong.bytes_ne_nil, hlong.high_bytes,
        rfl, scan_some_cons_of_not_admits hb bytes⟩

/-- **A written character is read back, whatever follows it.** -/
theorem scan_encodeOne {c : CodePoint} (hc : c.isSurrogate = false) (rest : List UInt8) :
    scan none (encodeOne c ++ rest) = .character c :: scan none rest := by
  have hval : Fin.ofNat 0x110000 c.val = c := Fin.ofNat_val_eq_self c
  rcases Nat.lt_or_ge c.val 0x80 with hshort | hlong
  · have hb : (UInt8.ofNat c.val).toNat = c.val := toNat_ofNat_of_lt (by omega)
    rw [encodeOne, if_pos hshort, List.singleton_append, scan, step, start, hb, if_pos hshort, hval]
    rfl
  · obtain ⟨a, begun, tail, he, ho, h⟩ := completes_encodeOne hc hlong
    rw [he, List.cons_append, ho.scan_cons, h.scan_append, hval]

/-- **What the machine finds first in any bytes**: nothing, a character with just the bytes that
are written for it, or a faulty stretch. -/
theorem scan_cases (bytes : List UInt8) :
    bytes = [] ∨ (∃ c rest, c.isSurrogate = false ∧ bytes = encodeOne c ++ rest) ∨
      FindsFaulty none [] bytes := by
  cases bytes with
  | nil => exact Or.inl rfl
  | cons a bytes =>
    right
    rcases start_cases a with ⟨ha, hs⟩ | ⟨begun, ho⟩ | ⟨ha, hs⟩
    · have hval : (Fin.ofNat 0x110000 a.toNat).val = a.toNat := Nat.mod_eq_of_lt (by omega)
      refine Or.inl ⟨Fin.ofNat 0x110000 a.toNat, bytes, isSurrogate_eq_false_iff.mpr (by omega), ?_⟩
      rw [encodeOne, hval, if_pos ha, UInt8.ofNat_toNat, List.singleton_append]
    · rcases completes_or_faulty bytes ho.isLong with ⟨tail, rest, n, rfl, h⟩ | h
      · obtain ⟨hc, he⟩ := encodeOne_of_completes ho h
        exact Or.inl ⟨_, rest, hc, by rw [he, List.cons_append]⟩
      · obtain ⟨flaw, stretch, rest, hne, hhigh, hsplit, hscan⟩ := h
        rw [ho.bytes_eq] at hsplit
        exact Or.inr ⟨flaw, stretch, rest, hne, hhigh, hsplit, (ho.scan_cons bytes).trans hscan⟩
    · refine Or.inr ⟨.startByte, [a], bytes, List.cons_ne_nil _ _, List.forall_mem_singleton.mpr ha,
        rfl, ?_⟩
      rw [scan, step, hs]
      rfl

private theorem assemble_scan_encode {text : Text} (h : Writable text) (position : Nat) :
    assemble position (scan none (encode text)) = .ok text := by
  induction text generalizing position with
  | nil => rfl
  | cons c text ih =>
    obtain ⟨hc, htext⟩ := writable_cons_iff.mp h
    rw [encode_cons, scan_encodeOne hc, assemble, ih htext]
    rfl

private theorem encode_of_assemble_scan (text : Text) (position : Nat) (bytes : List UInt8)
    (h : assemble position (scan none bytes) = .ok text) :
    Writable text ∧ encode text = bytes := by
  induction text generalizing position bytes with
  | nil =>
    rcases scan_cases bytes with rfl | ⟨c, rest, hc, rfl⟩ | ⟨flaw, stretch, rest, -, -, -, hs⟩
    · exact ⟨.nil, rfl⟩
    · rw [scan_encodeOne hc, assemble] at h
      cases he : assemble (position + (encodeOne c).length) (scan none rest) <;>
        simp [he, Except.map] at h
    · simp [hs, assemble] at h
  | cons d text ih =>
    rcases scan_cases bytes with rfl | ⟨c, rest, hc, rfl⟩ | ⟨flaw, stretch, rest, -, -, -, hs⟩
    · simp [scan, assemble] at h
    · rw [scan_encodeOne hc, assemble] at h
      cases he : assemble (position + (encodeOne c).length) (scan none rest) with
      | error fault => simp [he, Except.map] at h
      | ok found =>
        rw [he] at h
        obtain ⟨rfl, rfl⟩ : c = d ∧ found = text := by simpa [Except.map] using h
        obtain ⟨htext, rfl⟩ := ih _ rest he
        exact ⟨writable_cons_iff.mpr ⟨hc, htext⟩, rfl⟩
    · simp [hs, assemble] at h

/-- The bytes of a text are read as that text. -/
theorem decode_encode {text : Text} (h : Writable text) : decode (encode text) = .ok text :=
  assemble_scan_encode h 0

/-- **Bytes are read as a text just if they are the bytes that are written for it.** -/
theorem decode_eq_ok_iff {bytes : List UInt8} {text : Text} :
    decode bytes = .ok text ↔ Writable text ∧ encode text = bytes := by
  refine ⟨encode_of_assemble_scan text 0 bytes, ?_⟩
  rintro ⟨h, rfl⟩
  exact decode_encode h

theorem decode?_eq_some_iff {bytes : List UInt8} {text : Text} :
    decode? bytes = some text ↔ Writable text ∧ encode text = bytes := by
  rw [← decode_eq_ok_iff, decode?]
  cases decode bytes <;> simp [Except.toOption]

@[simp] theorem decode?_nil : decode? [] = some [] :=
  decode?_eq_some_iff.mpr ⟨.nil, rfl⟩

theorem decode?_encode {text : Text} (h : Writable text) : decode? (encode text) = some text :=
  decode?_eq_some_iff.mpr ⟨h, rfl⟩

/-- The lenient reader finds nothing to replace in a text that was written. -/
theorem decodeReplacing_encode : ∀ {text : Text}, Writable text →
    decodeReplacing (encode text) = text
  | [], _ => rfl
  | c :: text, h => by
    obtain ⟨hc, htext⟩ := writable_cons_iff.mp h
    have htail := decodeReplacing_encode htext
    rw [decodeReplacing] at htail ⊢
    rw [encode_cons, scan_encodeOne hc, List.map_cons, htail]

/-- **Bytes at the beginning of a written text that are a text themselves are one at its
beginning.** Each character is read back from its bytes, whatever follows them. -/
theorem isPrefix_of_encode :
    ∀ {a b : Text}, Writable a → Writable b → encode a <+: encode b → a <+: b
  | [], _, _, _, _ => List.nil_prefix
  | c :: a, [], _, _, h => by
    have hnil : encode (c :: a) = [] := List.prefix_nil.mp h
    exact absurd (encode_eq_nil_iff.mp hnil) (List.cons_ne_nil c a)
  | c :: a, d :: b, hca, hdb, ⟨tail, htail⟩ => by
    obtain ⟨hc, ha⟩ := writable_cons_iff.mp hca
    obtain ⟨hd, hb⟩ := writable_cons_iff.mp hdb
    rw [encode_cons, encode_cons, List.append_assoc] at htail
    have hscan := congrArg (scan none) htail
    rw [scan_encodeOne hc, scan_encodeOne hd] at hscan
    obtain rfl := Piece.character.inj (List.cons.inj hscan).1
    have hrest : encode a <+: encode b := ⟨tail, List.append_cancel_left htail⟩
    exact (List.prefix_cons_inj c).mpr (isPrefix_of_encode ha hb hrest)

/-- Some bytes are never read as the empty text. -/
theorem ne_nil_of_decode? {bytes : List UInt8} {text : Text} (h : decode? bytes = some text)
    (hb : bytes ≠ []) : text ≠ [] := by
  rintro rfl
  exact hb (decode?_eq_some_iff.mp h).2.symm

/-! ### Counting characters -/

/-- Whether a byte is the first one of a character. The others are those from 0x80 to 0xBF. -/
def isFirst (b : UInt8) : Bool := b.toNat < 0x80 || 0xC0 ≤ b.toNat

/-- A character has one first byte, and that stands in front. -/
theorem encodeOne_eq_cons (c : CodePoint) :
    ∃ b tail, encodeOne c = b :: tail ∧ isFirst b = true ∧ tail.countP isFirst = 0 := by
  have hc := c.isLt
  have hfirst {n : Nat} (hn : 0xC0 ≤ n ∧ n < 0x100) : isFirst (.ofNat n) = true := by
    rw [isFirst, toNat_ofNat_of_lt hn.2, Bool.or_eq_true, decide_eq_true_iff, decide_eq_true_iff]
    exact Or.inr hn.1
  have hnext (n : Nat) : isFirst (.ofNat (0x80 + n % 0x40)) = false := by
    rw [isFirst, toNat_ofNat_of_lt (by omega), Bool.or_eq_false_iff, decide_eq_false_iff_not,
      decide_eq_false_iff_not]
    omega
  simp only [encodeOne]
  split_ifs with hone htwo hthree
  · refine ⟨_, _, rfl, ?_, rfl⟩
    rw [isFirst, toNat_ofNat_of_lt (by omega), decide_eq_true hone, Bool.true_or]
  · exact ⟨_, _, rfl, hfirst (by omega), by
      simp only [hnext, List.countP_cons, List.countP_nil]; rfl⟩
  · exact ⟨_, _, rfl, hfirst (by omega), by
      simp only [hnext, List.countP_cons, List.countP_nil]; rfl⟩
  · exact ⟨_, _, rfl, hfirst (by omega), by
      simp only [hnext, List.countP_cons, List.countP_nil]; rfl⟩

/-- There are as many first bytes as characters. -/
theorem countP_isFirst_encode (text : Text) : (encode text).countP isFirst = text.length := by
  induction text with
  | nil => rfl
  | cons c text ih =>
    obtain ⟨b, tail, hc, hb, htail⟩ := encodeOne_eq_cons c
    rw [encode_cons, List.countP_append, ih, hc, List.countP_cons_of_pos hb, htail,
      List.length_cons, Nat.zero_add, Nat.add_comm]

/-- A text has no fewer bytes than characters. -/
theorem length_le_length_encode (text : Text) : text.length ≤ (encode text).length :=
  (countP_isFirst_encode text).symm.trans_le List.countP_le_length

/-- **Of texts of one length, no one's bytes end in those of another.** What stood in front of
these would hold no character, and yet begin with one. -/
theorem eq_of_encode_isSuffix {a b : Text} (ha : Writable a) (hb : Writable b)
    (hlength : a.length = b.length) (h : encode a <:+ encode b) : a = b := by
  obtain ⟨front, hfront⟩ := h
  have hcount : front.countP isFirst = 0 := by
    have hall := congrArg (List.countP isFirst) hfront
    rw [List.countP_append, countP_isFirst_encode, countP_isFirst_encode] at hall
    omega
  have hnil : front = [] := by
    cases front with
    | nil => rfl
    | cons x front =>
      cases b with
      | nil => cases hfront
      | cons c b =>
        obtain ⟨y, tail, hc, hy, -⟩ := encodeOne_eq_cons c
        rw [encode_cons, hc] at hfront
        obtain rfl : x = y := (List.cons.inj hfront).1
        exact absurd (List.countP_eq_zero.mp hcount x List.mem_cons_self) (by simp [hy])
  rw [hnil, List.nil_append] at hfront
  have hread := decode_encode ha
  rw [hfront, decode_encode hb] at hread
  exact (Except.ok.inj hread).symm

/-! ### Names of files -/

/-- A text that can name a file: of surrogates it holds escapes only. -/
def Namable (name : Text) : Prop := ∀ c ∈ name, isNamable c = true

/-- Just the texts that can name a file are written as a name. -/
theorem encodeName?_eq_ok_iff {name : Text} {bytes : List UInt8} :
    encodeName? name = .ok bytes ↔ Namable name ∧ encodeName name = bytes := by
  rw [Namable, ← SurrogateRun.first?_eq_none_iff, encodeName?]
  cases SurrogateRun.first? isNamable name <;> simp

theorem encodeName?_of_namable {name : Text} (h : Namable name) :
    encodeName? name = .ok (encodeName name) :=
  encodeName?_eq_ok_iff.mpr ⟨h, rfl⟩

@[simp] theorem encodeName_append (a b : Text) :
    encodeName (a ++ b) = encodeName a ++ encodeName b :=
  List.flatMap_append

@[simp] theorem encodeName_cons (c : CodePoint) (name : Text) :
    encodeName (c :: name) = encodeNameOne c ++ encodeName name := rfl

theorem encodeNameOne_of_isSurrogate_eq_false {c : CodePoint} (hc : c.isSurrogate = false) :
    encodeNameOne c = encodeOne c := by
  have hplain : escapedByte? c = none := by
    rw [isSurrogate_eq_false_iff] at hc
    rw [escapedByte?, if_neg (by omega)]
  rw [encodeNameOne, hplain]

/-- Without surrogates, names are written as any text is. -/
theorem encodeName_of_writable : ∀ {name : Text}, Writable name → encodeName name = encode name
  | [], _ => rfl
  | c :: name, h => by
    obtain ⟨hc, hname⟩ := writable_cons_iff.mp h
    rw [encodeName_cons, encodeNameOne_of_isSurrogate_eq_false hc, encodeName_of_writable hname,
      encode_cons]

/-- Bytes that are no characters by themselves can be written by their escapes. -/
theorem encodeName?_escapes {bytes : List UInt8} (h : ∀ b ∈ bytes, 0x80 ≤ b.toNat) :
    encodeName? (bytes.map fun b => Fin.ofNat 0x110000 (0xDC00 + b.toNat)) = .ok bytes := by
  have hescape : ∀ b ∈ bytes, escapedByte? (Fin.ofNat 0x110000 (0xDC00 + b.toNat)) = some b := by
    intro b hb
    have hlow := h b hb
    have hhigh := b.toNat_lt
    have hval : (Fin.ofNat 0x110000 (0xDC00 + b.toNat)).val = 0xDC00 + b.toNat :=
      Nat.mod_eq_of_lt (by omega)
    rw [escapedByte?, hval, if_pos (by omega), Nat.add_sub_cancel_left, UInt8.ofNat_toNat]
  refine encodeName?_eq_ok_iff.mpr ⟨List.forall_mem_map.mpr fun b hb => ?_, ?_⟩
  · rw [isNamable, hescape b hb, Option.isSome_some, Bool.or_true]
  · clear h
    induction bytes with
    | nil => rfl
    | cons b bytes ih =>
      obtain ⟨hb, hbytes⟩ := List.forall_mem_cons.mp hescape
      rw [List.map_cons, encodeName_cons, encodeNameOne, hb, ih hbytes, List.singleton_append]

/-- What is put together of texts that can be written as names can be written as one. -/
theorem encodeName?_append {a b : Text} {before after : List UInt8}
    (ha : encodeName? a = .ok before) (hb : encodeName? b = .ok after) :
    encodeName? (a ++ b) = .ok (before ++ after) := by
  obtain ⟨hnamableA, rfl⟩ := encodeName?_eq_ok_iff.mp ha
  obtain ⟨hnamableB, rfl⟩ := encodeName?_eq_ok_iff.mp hb
  exact encodeName?_eq_ok_iff.mpr
    ⟨List.forall_mem_append.mpr ⟨hnamableA, hnamableB⟩, encodeName_append a b⟩

/-- **The text of a name can be written, as that name**, whatever its bytes are. -/
theorem encodeName?_decodeName (bytes : List UInt8) :
    encodeName? (decodeName bytes) = .ok bytes := by
  induction hlength : bytes.length using Nat.strongRecOn generalizing bytes with
  | _ length ih =>
    rw [decodeName]
    rcases scan_cases bytes with rfl | ⟨c, rest, hc, rfl⟩ |
      ⟨flaw, stretch, rest, hne, hhigh, hsplit, hscan⟩
    · rfl
    · have hpos := List.length_pos_iff.mpr (encodeOne_ne_nil c)
      rw [List.length_append] at hlength
      have hfirst : encodeName? [c] = .ok (encodeOne c) := by
        refine encodeName?_eq_ok_iff.mpr ⟨List.forall_mem_singleton.mpr ?_, ?_⟩
        · rw [isNamable, hc, Bool.not_false, Bool.true_or]
        · rw [encodeName_cons, encodeNameOne_of_isSurrogate_eq_false hc]
          exact List.append_nil _
      rw [scan_encodeOne hc, List.flatMap_cons, ← decodeName]
      exact encodeName?_append hfirst (ih rest.length (by omega) rest rfl)
    · obtain rfl : bytes = stretch ++ rest := hsplit
      have hpos := List.length_pos_iff.mpr hne
      rw [List.length_append] at hlength
      rw [hscan, List.flatMap_cons, ← decodeName]
      exact encodeName?_append (encodeName?_escapes hhigh) (ih rest.length (by omega) rest rfl)

end Utf8

end LexBridge
