import LexBridge.Proofs.Text.Cutting
import LexBridge.Proofs.Token.Stream

/-!
# Line terminators do not matter

Lines may be written one behind the other with any line boundary after each of them, CR LF among
them, and with none after the last one. Cutting such a text does not always give the same lines: a
CR after one line and the LF after an empty next one are a single boundary, and an empty last line
without a boundary leaves no line at all. But only empty lines get lost in this way, and an empty
line does not have two fields. Tokens and log of a stream depend on its two-field lines alone.

## Main definitions

* `Text.Terminator`: what may stand after a line.
* `Text.Terminated`: the ways to write lines as one text.

## Main results

* `decodeLines_of_fields_eq`: the two-field lines determine tokens and log.
* `Text.Terminated.fields_lines`: no two-field line gets lost, and none is added.
* `decodeOutput_of_terminated`: what is decoded from lines, however they are terminated.
-/

namespace LexBridge

namespace Text

/-- What may stand after a line: one of the characters that end lines, or CR LF. -/
inductive Terminator : Text → Prop
  | single (boundary : CodePoint) (h : boundary.isLineBoundary = true) : Terminator [boundary]
  | pair : Terminator [0x0D, 0x0A]

/-- The ways to write lines as one text. No line holds a line boundary, each is followed by a
terminator of its own, and the last one may be followed by none. -/
inductive Terminated : List Text → Text → Prop
  | nil : Terminated [] []
  | last {line : Text} (hline : ∀ c ∈ line, c.isLineBoundary = false) : Terminated [line] line
  | cons {line terminator text : Text} {lines : List Text}
      (hline : ∀ c ∈ line, c.isLineBoundary = false) (hterminator : Terminator terminator)
      (h : Terminated lines text) : Terminated (line :: lines) (line ++ terminator ++ text)

/-- A line with its terminator is cut off, and with it the LF behind it if the two are fused. -/
theorem Terminator.lines_append {line terminator : Text}
    (hline : ∀ c ∈ line, c.isLineBoundary = false) (h : Terminator terminator) (text : Text) :
    lines (line ++ terminator ++ text) = line :: lines text ∨
      ∃ rest, lines text = [] :: rest ∧ lines (line ++ terminator ++ text) = line :: rest := by
  rw [List.append_assoc]
  cases h with
  | pair => exact Or.inl (lines_append_pair hline text)
  | single boundary hboundary =>
    by_cases hfused : boundary = 0x0D ∧ text.head? = some 0x0A
    · obtain ⟨rfl, hhead⟩ := hfused
      obtain ⟨rest, rfl⟩ := List.head?_eq_some_iff.mp hhead
      have hempty : lines (0x0A :: rest) = [] :: lines rest :=
        lines_append_lineFeed (List.forall_mem_nil _) rest
      exact Or.inr ⟨lines rest, hempty, lines_append_pair hline rest⟩
    · exact Or.inl (lines_append_cons hboundary hfused hline)

/-- **Terminated lines are cut into lines with the same fields.** -/
theorem Terminated.fields_lines {lines : List Text} {text : Text} (h : Terminated lines text) :
    Stream.fields text.lines = Stream.fields lines := by
  induction h with
  | nil => rfl
  | @last line hline =>
    by_cases hempty : line = []
    · subst hempty
      rfl
    · rw [lines_of_forall_not_boundary hempty hline]
  | @cons line terminator text lines hline hterminator _ ih =>
    rw [← List.singleton_append, Stream.fields_append, ← ih]
    rcases hterminator.lines_append hline text with hlines | ⟨rest, htext, hlines⟩
    · rw [hlines, ← List.singleton_append, Stream.fields_append]
    · -- the empty line that is lost has no fields
      rw [hlines, htext, ← List.singleton_append, Stream.fields_append]
      rfl

end Text

/-- **The two-field lines of a stream determine its tokens and its log.** -/
theorem decodeLines_of_fields_eq {a b : List Text} (h : Stream.fields a = Stream.fields b) :
    decodeLines a = decodeLines b := by
  have hrows : Stream.rows a = Stream.rows b := by rw [Stream.rows, Stream.rows, h]
  have hmalformed : Stream.malformed? a = Stream.malformed? b := by
    rw [Stream.malformed?, Stream.malformed?, h]
  rw [decodeLines_eq, decodeLines_eq, hrows, hmalformed]

/-- **Line terminators do not matter.** Lines that are written as one text are decoded into the
tokens and the log of these lines, whatever terminators were chosen, and whether or not the last
line has one. -/
theorem decodeOutput_of_terminated {lines : List Text} {output : Text}
    (h : Text.Terminated lines output) : decodeOutput output = decodeLines lines :=
  decodeLines_of_fields_eq h.fields_lines

theorem decodeOutput_of_terminated_fused :
    let lines := [Text.of "Token.Text\t'61'", [], Text.of "Token.Text\t'62'"]
    let output := Text.of "Token.Text\t'61'\r\nToken.Text\t'62'"
    Text.Terminated lines output ∧ output.lines.length = 2 ∧
      decodeOutput output = decodeLines lines ∧
      decodeOutput output = ⟨[⟨.text, Text.of "ab"⟩], [.decoded 1 false]⟩ := by
  intro lines output
  have hlines : ∀ line ∈ lines, line.all (fun c => !c.isLineBoundary) = true := by decide +kernel
  simp only [List.all_eq_true, Bool.not_eq_true'] at hlines
  have h : Text.Terminated lines output :=
    .cons (hlines _ (by simp [lines])) (.single 0x0D (by decide))
      (.cons (List.forall_mem_nil _) (.single 0x0A (by decide))
        (.last (hlines _ (by simp [lines]))))
  exact ⟨h, by decide +kernel, decodeOutput_of_terminated h, by decide +kernel⟩

end LexBridge
