import LexBridge.Proofs.Text.Cutting
import LexBridge.Proofs.Text.Utf8
import LexBridge.Wire.Row

/-!
# Reading rows that were written

A row of a lexer becomes a line of tool output, and the fields of that line give its name and the
bytes of its fragment back. This takes names that do not disturb the form of the output. Fragments
may hold anything that UTF-8 can write, tabs and line boundaries among it, since only hexadecimal
digits stand for them.

## Main definitions

* `Row.OneLine`, `Row.Plain`: a row that is written as one line, and one whose line can be written
  as UTF-8 too.
* `Row.line`: the line of a row, without the LF that closes it.

## Main results

* `Payload.bytes_ofBytes`, `Payload.isWellFormed_ofBytes`: reading a written payload.
* `Row.writeAll_eq`: rows are all written, one line each.
* `Row.fields?_line`: the two fields of the line of a row.
* `Row.lines_flatMap_line`: the lines of a whole output.
-/

namespace LexBridge

/-! ### Hexadecimal digits -/

namespace CodePoint

theorem digit?_hexDigit : ∀ n < 16, Payload.digit? (hexDigit n) = some n := by decide

theorem lower_hexDigit : ∀ n < 16, Payload.lower (hexDigit n) = [hexDigit n] := by decide

theorem hexDigit_ne_tab : ∀ n < 16, hexDigit n ≠ 0x09 := by decide

theorem isLineBoundary_hexDigit : ∀ n < 16, (hexDigit n).isLineBoundary = false := by decide

theorem isSurrogate_hexDigit : ∀ n < 16, (hexDigit n).isSurrogate = false := by decide

end CodePoint

namespace Payload

theorem digitsOf_eq (b : UInt8) :
    digitsOf b = [CodePoint.hexDigit (b.toNat / 16), CodePoint.hexDigit (b.toNat % 16)] := by
  have hb : b.toNat < 256 := b.toNat_lt
  have hhigh : b.toNat / 16 % 16 = b.toNat / 16 := Nat.mod_eq_of_lt (by omega)
  simp [digitsOf, Text.ofNatHex, hhigh]

/-- What holds of all sixteen digits holds of all characters between the wrappers. -/
theorem forall_mem_digitsOf {p : CodePoint → Prop} (h : ∀ n < 16, p (CodePoint.hexDigit n))
    (bytes : List UInt8) : ∀ c ∈ bytes.flatMap digitsOf, p c := by
  intro c hc
  obtain ⟨b, -, hc⟩ := List.mem_flatMap.mp hc
  have hb : b.toNat < 256 := b.toNat_lt
  rw [digitsOf_eq, List.mem_cons, List.mem_singleton] at hc
  rcases hc with rfl | rfl
  · exact h _ (by omega)
  · exact h _ (by omega)

/-! ### Payloads -/

theorem length_flatMap_digitsOf (bytes : List UInt8) :
    (bytes.flatMap digitsOf).length = 2 * bytes.length := by
  induction bytes with
  | nil => rfl
  | cons b bytes ih =>
    rw [List.flatMap_cons, List.length_append, ih, digitsOf_eq, List.length_cons]
    simp only [List.length_cons, List.length_nil]
    omega

theorem ofBytes_eq (bytes : List UInt8) :
    ofBytes bytes = 0x27 :: (bytes.flatMap digitsOf ++ [0x27]) := by
  have hquote : Text.of "'" = [0x27] := by decide
  rw [ofBytes, hquote, List.append_assoc, List.singleton_append]

/-- What holds of apostrophes and digits holds of all characters of a written payload. -/
theorem forall_mem_ofBytes {p : CodePoint → Prop} (hquote : p 0x27)
    (h : ∀ n < 16, p (CodePoint.hexDigit n)) (bytes : List UInt8) : ∀ c ∈ ofBytes bytes, p c := by
  rw [ofBytes_eq, List.forall_mem_cons, List.forall_mem_append, List.forall_mem_singleton]
  exact ⟨hquote, forall_mem_digitsOf h bytes, hquote⟩

/-- Only the length of the body counts for the shape of a payload. -/
theorem isWellFormed_wrapped (first last : CodePoint) (body : Text) :
    isWellFormed (first :: (body ++ [last])) = decide (body.length % 2 = 0) := by
  rw [isWellFormed, List.length_cons, List.length_append, List.length_singleton,
    Bool.and_eq_decide, decide_eq_decide, decide_eq_true_eq, decide_eq_true_eq]
  omega

theorem isWellFormed_ofBytes (bytes : List UInt8) : isWellFormed (ofBytes bytes) = true := by
  rw [ofBytes_eq, isWellFormed_wrapped, length_flatMap_digitsOf, decide_eq_true_eq]
  exact Nat.mul_mod_right 2 _

theorem bytes_wrapped (first last : CodePoint) (body : Text) :
    Payload.bytes (first :: (body ++ [last])) = pairs (body.flatMap lower) := by
  simp [Payload.bytes, inner]

/-- The digits of a byte are read as that byte, whatever follows them. -/
theorem pairs_digitsOf_append (b : UInt8) (body : Text) :
    pairs ((digitsOf b ++ body).flatMap lower) = b :: pairs (body.flatMap lower) := by
  have hb : b.toNat < 256 := b.toNat_lt
  have hhigh : b.toNat / 16 < 16 := by omega
  have hlow : b.toNat % 16 < 16 := by omega
  rw [List.flatMap_append, digitsOf_eq, List.flatMap_cons, List.flatMap_singleton,
    CodePoint.lower_hexDigit _ hhigh, CodePoint.lower_hexDigit _ hlow]
  simp only [List.cons_append, List.nil_append, pairs, CodePoint.digit?_hexDigit _ hhigh,
    CodePoint.digit?_hexDigit _ hlow]
  rw [Nat.div_add_mod, UInt8.ofNat_toNat]

theorem pairs_flatMap_lower_digitsOf (bytes : List UInt8) :
    pairs ((bytes.flatMap digitsOf).flatMap lower) = bytes := by
  induction bytes with
  | nil => rfl
  | cons b bytes ih => rw [List.flatMap_cons, pairs_digitsOf_append, ih]

/-- The bytes that a payload is written for are read from it. -/
theorem bytes_ofBytes (bytes : List UInt8) : Payload.bytes (ofBytes bytes) = bytes := by
  rw [ofBytes_eq, bytes_wrapped, pairs_flatMap_lower_digitsOf]

end Payload

/-! ### Rows -/

namespace Row

/-- A row that can be written without disturbing the form of the output: its name holds no tab and
no line boundary, and neither name nor fragment holds a surrogate, which output in UTF-8 cannot
hold. -/
structure Plain (row : Row) : Prop where
  name_tab : 0x09 ∉ row.name
  name_boundary : ∀ c ∈ row.name, c.isLineBoundary = false
  name_writable : Utf8.Writable row.name
  value_writable : Utf8.Writable row.value

instance (row : Row) : Decidable row.Plain :=
  decidable_of_iff (0x09 ∉ row.name ∧ (row.name.all fun c => !c.isLineBoundary) = true ∧
      Utf8.Writable row.name ∧ Utf8.Writable row.value)
    ⟨fun ⟨htab, hboundary, hname, hvalue⟩ => ⟨htab, by simpa using hboundary, hname, hvalue⟩,
      fun h => ⟨h.name_tab, by simpa using h.name_boundary, h.name_writable, h.value_writable⟩⟩

/-- A row that is written as one line with two fields: its name holds no tab and no line boundary,
and its fragment can be written. -/
structure OneLine (row : Row) : Prop where
  name_tab : 0x09 ∉ row.name
  name_boundary : ∀ c ∈ row.name, c.isLineBoundary = false
  value_writable : Utf8.Writable row.value

theorem Plain.oneLine {row : Row} (h : row.Plain) : row.OneLine :=
  ⟨h.name_tab, h.name_boundary, h.value_writable⟩

/-- The line of a row, without the LF that closes it. -/
def line (row : Row) : Text := row.name ++ 0x09 :: Payload.ofBytes (Utf8.encode row.value)

theorem write_eq {row : Row} (h : Utf8.Writable row.value) :
    row.write = .ok (row.line ++ [0x0A]) := by
  rw [write, Utf8.encode?_of_writable h]
  simp [Except.map, line]

/-- **Rows whose fragments can be written are all written**, one line each. -/
theorem writeAll_eq : ∀ {rows : List Row}, (∀ row ∈ rows, Utf8.Writable row.value) →
    writeAll rows = (rows.flatMap fun row => row.line ++ [0x0A], none)
  | [], _ => rfl
  | row :: rows, h => by
    obtain ⟨hrow, hrows⟩ := List.forall_mem_cons.mp h
    rw [writeAll, write_eq hrow, writeAll_eq hrows, List.flatMap_cons]

/-- The lines with two fields are those with exactly one tab. -/
theorem fields?_eq_some_iff {line name payload : Text} :
    fields? line = some (name, payload) ↔
      0x09 ∉ name ∧ 0x09 ∉ payload ∧ line = name ++ 0x09 :: payload := by
  rw [← Text.splitOn_eq_pair_iff, fields?]
  split
  · rename_i a b h
    simp [h]
  · rename_i h
    simpa using h name payload

/-- All other lines have no two fields. -/
theorem fields?_eq_none_iff {line : Text} : fields? line = none ↔ line.count 0x09 ≠ 1 := by
  constructor
  · intro hnone hcount
    rcases Text.splitOn_cases 0x09 line with hno | ⟨name, payload, hname, rfl⟩
    · rw [List.count_eq_zero_of_not_mem hno] at hcount
      exact Nat.zero_ne_one hcount
    · rw [List.count_append, List.count_cons_self, List.count_eq_zero_of_not_mem hname] at hcount
      have hpayload : 0x09 ∉ payload := List.count_eq_zero.mp (by omega)
      rw [fields?_eq_some_iff.mpr ⟨hname, hpayload, rfl⟩] at hnone
      exact Option.some_ne_none _ hnone
  · intro hcount
    cases hfields : fields? line with
    | none => rfl
    | some fields =>
      obtain ⟨hname, hpayload, rfl⟩ := fields?_eq_some_iff.mp hfields
      refine absurd ?_ hcount
      rw [List.count_append, List.count_cons_self, List.count_eq_zero_of_not_mem hname,
        List.count_eq_zero_of_not_mem hpayload]

namespace OneLine

variable {row : Row}

theorem fields?_line (h : row.OneLine) :
    fields? row.line = some (row.name, Payload.ofBytes (Utf8.encode row.value)) := by
  refine fields?_eq_some_iff.mpr ⟨h.name_tab, fun htab => ?_, rfl⟩
  exact Payload.forall_mem_ofBytes (p := (· ≠ 0x09)) (by decide) CodePoint.hexDigit_ne_tab _ _
    htab rfl

theorem line_boundary (h : row.OneLine) : ∀ c ∈ row.line, c.isLineBoundary = false := by
  rw [line, List.forall_mem_append, List.forall_mem_cons]
  exact ⟨h.name_boundary, by decide,
    Payload.forall_mem_ofBytes (by decide) CodePoint.isLineBoundary_hexDigit _⟩

end OneLine

theorem Plain.line_writable {row : Row} (h : row.Plain) : Utf8.Writable row.line := by
  rw [line, Utf8.writable_append_iff, Utf8.writable_cons_iff]
  exact ⟨h.name_writable, by decide,
    Payload.forall_mem_ofBytes (by decide) CodePoint.isSurrogate_hexDigit _⟩

/-- The output for plain rows can be written itself. -/
theorem writable_flatMap_line {rows : List Row} (h : ∀ row ∈ rows, row.Plain) :
    Utf8.Writable (rows.flatMap fun row => row.line ++ [0x0A]) := by
  intro c hc
  obtain ⟨row, hrow, hc⟩ := List.mem_flatMap.mp hc
  have hline : Utf8.Writable (row.line ++ [0x0A]) :=
    Utf8.writable_append_iff.mpr
      ⟨(h row hrow).line_writable, List.forall_mem_singleton.mpr (by decide)⟩
  exact hline c hc

/-- **The output for rows is cut into their lines.** -/
theorem lines_flatMap_line {rows : List Row} (h : ∀ row ∈ rows, row.OneLine) :
    Text.lines (rows.flatMap fun row => row.line ++ [0x0A]) = rows.map line :=
  Text.lines_flatMap line fun row hrow => (h row hrow).line_boundary

end Row

end LexBridge
