import LexBridge.Proofs.Token.Stream
import LexBridge.Proofs.Wire.Payload

/-!
# Tokens do not depend on how rows are cut

A tool may write one fragment as one row or as many, may cut it inside a character, and may choose
wrappers and names as it likes, as long as the names stand for the same kind. Streams that differ in
nothing else have the same runs, and so the same tokens.

That two streams differ in nothing else is the least congruence that lets a row be cut in two, or
be written with other wrappers or another name, and lets a line without two fields be left out. Each
of these keeps the runs of the stream in which it is done, also next to a malformed payload or a run
that is not UTF-8, because rows are gathered before any byte is read as UTF-8.

## Main definitions

* `Stream.Recut`: streams that differ only in how their rows are cut and written.

## Main results

* `Stream.Recut.runs_rows_eq`: such streams have the same runs.
* `decodeLines_of_recut`: they have the same tokens.
-/

namespace LexBridge

namespace Stream

/-- **Streams that differ only in how their rows are cut and written.** The changes may be made
anywhere in a stream, any number of times, and in both directions. -/
inductive Recut : List Text → List Text → Prop
  /-- A well-formed row is cut after an even number of characters of its body. The two rows have
  the name of the whole and wrappers of their own. -/
  | split {whole left right name a b : Text}
      {first last leftFirst leftLast rightFirst rightLast : CodePoint}
      (hwhole : Row.fields? whole = some (name, first :: (a ++ b ++ [last])))
      (hformed : Payload.isWellFormed (first :: (a ++ b ++ [last])) = true)
      (heven : a.length % 2 = 0) (hdotted : 0x130 ∉ a)
      (hleft : Row.fields? left = some (name, leftFirst :: (a ++ [leftLast])))
      (hright : Row.fields? right = some (name, rightFirst :: (b ++ [rightLast])))
      (lines : List Text) : Recut (whole :: lines) (left :: right :: lines)
  /-- The wrappers of a payload are replaced by any other ones, whether it is well formed or not. -/
  | rewrap {old new name body : Text} {first last newFirst newLast : CodePoint}
      (hold : Row.fields? old = some (name, first :: (body ++ [last])))
      (hnew : Row.fields? new = some (name, newFirst :: (body ++ [newLast])))
      (lines : List Text) : Recut (old :: lines) (new :: lines)
  /-- A name is replaced by another one for the same kind. -/
  | relabel {old new name newName payload : Text}
      (hold : Row.fields? old = some (name, payload))
      (hnew : Row.fields? new = some (newName, payload))
      (hkind : Kind.ofLabel newName = Kind.ofLabel name)
      (lines : List Text) : Recut (old :: lines) (new :: lines)
  /-- A line that does not have exactly one tab is left out. -/
  | skip {line : Text} (hline : line.count 0x09 ≠ 1) (lines : List Text) :
      Recut (line :: lines) lines
  | cons (line : Text) {a b : List Text} (h : Recut a b) : Recut (line :: a) (line :: b)
  | refl (lines : List Text) : Recut lines lines
  | symm {a b : List Text} (h : Recut a b) : Recut b a
  | trans {a b c : List Text} (h : Recut a b) (h' : Recut b c) : Recut a c

/-- What stands before streams with the same runs does not make them differ. -/
theorem runs_rows_cons_congr {a b : List Text} (h : runs (rows a) = runs (rows b)) (line : Text) :
    runs (rows (line :: a)) = runs (rows (line :: b)) := by
  cases hfields : Row.fields? line with
  | none =>
    rw [rows_cons_of_fields?_eq_none a hfields, rows_cons_of_fields?_eq_none b hfields, h]
  | some fields =>
    obtain ⟨name, payload⟩ := fields
    cases hformed : Payload.isWellFormed payload with
    | true =>
      rw [rows_cons_of_isWellFormed a hfields hformed, rows_cons_of_isWellFormed b hfields hformed,
        runs_cons, runs_cons, h]
    | false =>
      rw [rows_cons_of_not_isWellFormed a hfields hformed,
        rows_cons_of_not_isWellFormed b hfields hformed]

/-- Lines with the same kind, shape and bytes give the same row. -/
theorem rows_cons_eq_of_fields? {old new name newName payload newPayload : Text}
    (hold : Row.fields? old = some (name, payload))
    (hnew : Row.fields? new = some (newName, newPayload))
    (hkind : Kind.ofLabel newName = Kind.ofLabel name)
    (hformed : Payload.isWellFormed newPayload = Payload.isWellFormed payload)
    (hbytes : Payload.bytes newPayload = Payload.bytes payload) (lines : List Text) :
    rows (old :: lines) = rows (new :: lines) := by
  cases h : Payload.isWellFormed payload with
  | true =>
    rw [rows_cons_of_isWellFormed lines hold h,
      rows_cons_of_isWellFormed lines hnew (hformed.trans h), hkind, hbytes]
  | false =>
    rw [rows_cons_of_not_isWellFormed lines hold h,
      rows_cons_of_not_isWellFormed lines hnew (hformed.trans h)]

/-- **Streams that differ only in how their rows are cut and written have the same runs.** -/
theorem Recut.runs_rows_eq {a b : List Text} (h : Recut a b) : runs (rows a) = runs (rows b) := by
  induction h with
  | @split whole left right name a b first last leftFirst leftLast rightFirst rightLast hwhole
      hformed heven hdotted hleft hright lines =>
    have hlength := hformed
    rw [Payload.isWellFormed_wrapped, decide_eq_true_eq, List.length_append] at hlength
    have hleftFormed : Payload.isWellFormed (leftFirst :: (a ++ [leftLast])) = true := by
      rw [Payload.isWellFormed_wrapped, decide_eq_true_eq, heven]
    have hrightFormed : Payload.isWellFormed (rightFirst :: (b ++ [rightLast])) = true := by
      rw [Payload.isWellFormed_wrapped, decide_eq_true_eq]
      omega
    rw [rows_cons_of_isWellFormed lines hwhole hformed,
      rows_cons_of_isWellFormed _ hleft hleftFormed,
      rows_cons_of_isWellFormed lines hright hrightFormed, runs_cons, runs_cons, runs_cons,
      gather_gather,
      Payload.bytes_append heven hdotted b first last leftFirst leftLast rightFirst rightLast]
  | rewrap hold hnew lines =>
    rw [rows_cons_eq_of_fields? hold hnew rfl ?_ ?_ lines]
    · rw [Payload.isWellFormed_wrapped, Payload.isWellFormed_wrapped]
    · rw [Payload.bytes_wrapped, Payload.bytes_wrapped]
  | relabel hold hnew hkind lines => rw [rows_cons_eq_of_fields? hold hnew hkind rfl rfl lines]
  | skip hline lines =>
    rw [rows_cons_of_fields?_eq_none lines (Row.fields?_eq_none_iff.mpr hline)]
  | cons line _ ih => exact runs_rows_cons_congr ih line
  | refl lines => rfl
  | symm _ ih => exact ih.symm
  | trans _ _ ih ih' => exact ih.trans ih'

end Stream

/-- **Tokens do not depend on how rows are cut and written**: not on where a fragment is cut into
rows, which may be inside a character, not on wrappers and names, and not on lines that are no
rows. -/
theorem decodeLines_of_recut {a b : List Text} (h : Stream.Recut a b) :
    (decodeLines a).tokens = (decodeLines b).tokens := by
  rw [tokens_decodeLines_eq, tokens_decodeLines_eq, h.runs_rows_eq]

theorem decodeLines_of_recut_euro :
    let whole := [Text.of "Token.Text\t'e282ac'"]
    let cut := [Text.of "no fields", Text.of "Token.Text\t<e2>", Text.of "Token.Text\t'82ac'"]
    Stream.Recut whole cut ∧ (decodeLines cut).tokens = [⟨.text, Text.of "€"⟩] := by
  intro whole cut
  have hcut : Stream.Recut whole cut.tail :=
    @Stream.Recut.split _ _ _ (Text.of "Token.Text") (Text.of "e2") (Text.of "82ac")
      0x27 0x27 0x3C 0x3E 0x27 0x27 (by decide +kernel) (by decide +kernel) (by decide +kernel)
      (by decide +kernel) (by decide +kernel) (by decide +kernel) []
  have hskip : Stream.Recut cut cut.tail := .skip (by decide +kernel) cut.tail
  have hwhole : Stream.Recut whole cut := hcut.trans hskip.symm
  refine ⟨hwhole, ?_⟩
  rw [← decodeLines_of_recut hwhole]
  decide +kernel

end LexBridge
