import LexBridge.Text.Cutting
import Mathlib.Data.List.Basic

/-!
# Cutting texts that were put together

A text that was put together from pieces is cut into these pieces again, if no piece holds what it
is cut at: at a separator, and at the boundaries of lines.

## Main results

* `Text.dropPrefix?_eq_some_iff`, `Text.dropPrefix?_eq_none_iff`: cutting off a beginning.
* `Text.trim_append_blank`: cutting off blanks.
* `Text.splitOn_append_separator`, `Text.splitOn_append_cons`, `Text.splitOn_of_notMem`: cutting at
  a separator.
* `Text.splitOn_eq_pair_iff`: which texts have exactly one separator.
* `Text.exists_splitOn_append`, `Text.suffix_joinWith_append`: what the last piece ends in.
* `Text.lines_append_cons`, `Text.lines_append_pair`, `Text.lines_flatMap`: cutting into lines.
* `Text.lines_of_cut`: the lines of what is left of a text that is cut anywhere.
-/

namespace LexBridge.Text

/-! ### Beginnings -/

theorem dropPrefix?_eq_some_iff {rest : Text} :
    ∀ {start text : Text}, dropPrefix? start text = some rest ↔ text = start ++ rest
  | [], text => by simp [dropPrefix?]
  | a :: start, [] => by simp [dropPrefix?]
  | a :: start, c :: text => by
    by_cases h : a = c
    · subst h
      rw [dropPrefix?, if_pos rfl, dropPrefix?_eq_some_iff, List.cons_append, List.cons.injEq,
        and_iff_right rfl]
    · simp [dropPrefix?, h, Ne.symm h]

theorem dropPrefix?_eq_none_iff {start text : Text} :
    dropPrefix? start text = none ↔ ¬ start <+: text := by
  rw [Option.eq_none_iff_forall_ne_some]
  constructor
  · rintro h ⟨rest, rfl⟩
    exact h rest (dropPrefix?_eq_some_iff.mpr rfl)
  · intro h rest hrest
    exact h ⟨rest, (dropPrefix?_eq_some_iff.mp hrest).symm⟩

/-! ### Blanks -/

/-- A blank at the end is cut off. -/
theorem trim_append_blank {c : CodePoint} (hc : c.isBlank = true) (text : Text) :
    trim (text ++ [c]) = trim text := by
  have hblank : [c].dropWhile (·.isBlank) = [] := List.dropWhile_cons_of_pos hc
  rw [trim, trim, List.dropWhile_append]
  split
  case isTrue hall => rw [List.isEmpty_iff.mp hall, hblank]
  case isFalse => rw [List.reverse_append, List.reverse_singleton, List.singleton_append,
    List.dropWhile_cons_of_pos hc]

/-! ### Separators -/

theorem splitOn_ne_nil (separator : CodePoint) (text : Text) : splitOn separator text ≠ [] := by
  cases text with
  | nil => exact List.cons_ne_nil _ _
  | cons c text =>
    rw [splitOn]
    split
    · exact List.cons_ne_nil _ _
    · split <;> exact List.cons_ne_nil _ _

theorem splitOn_of_notMem {separator : CodePoint} :
    ∀ {piece : Text}, separator ∉ piece → splitOn separator piece = [piece]
  | [], _ => rfl
  | c :: piece, h => by
    obtain ⟨hc, hpiece⟩ := not_or.mp (mt List.mem_cons.mpr h)
    rw [splitOn, if_neg (Ne.symm hc), splitOn_of_notMem hpiece]

/-- What stands around a separator is cut by itself. -/
theorem splitOn_append_separator (separator : CodePoint) (rest : Text) :
    ∀ text : Text,
      splitOn separator (text ++ separator :: rest) =
        splitOn separator text ++ splitOn separator rest
  | [] => by simp [splitOn]
  | c :: text => by
    rw [List.cons_append, splitOn, splitOn, splitOn_append_separator separator rest text]
    split
    · rfl
    · cases hpieces : splitOn separator text with
      | nil => exact absurd hpieces (splitOn_ne_nil separator text)
      | cons piece pieces => rfl

theorem splitOn_append_cons {separator : CodePoint} (rest : Text) {piece : Text}
    (h : separator ∉ piece) :
    splitOn separator (piece ++ separator :: rest) = piece :: splitOn separator rest := by
  rw [splitOn_append_separator, splitOn_of_notMem h, List.singleton_append]

/-- A text either has no separator, or begins with a piece that a separator ends. -/
theorem splitOn_cases (separator : CodePoint) :
    ∀ text : Text, separator ∉ text ∨
      ∃ piece rest, separator ∉ piece ∧ text = piece ++ separator :: rest
  | [] => Or.inl List.not_mem_nil
  | c :: text => by
    by_cases hc : c = separator
    · exact Or.inr ⟨[], text, List.not_mem_nil, by rw [hc, List.nil_append]⟩
    · rcases splitOn_cases separator text with h | ⟨piece, rest, h, rfl⟩
      · exact Or.inl (List.not_mem_cons_of_ne_of_not_mem (Ne.symm hc) h)
      · exact Or.inr
          ⟨c :: piece, rest, List.not_mem_cons_of_ne_of_not_mem (Ne.symm hc) h, rfl⟩

/-- There are two pieces just if there is exactly one separator. -/
theorem splitOn_eq_pair_iff {separator : CodePoint} {text a b : Text} :
    splitOn separator text = [a, b] ↔
      separator ∉ a ∧ separator ∉ b ∧ text = a ++ separator :: b := by
  constructor
  · intro h
    rcases splitOn_cases separator text with hno | ⟨piece, rest, hpiece, rfl⟩
    · simp [splitOn_of_notMem hno] at h
    rw [splitOn_append_cons rest hpiece] at h
    obtain ⟨rfl, hrest⟩ := List.cons.inj h
    rcases splitOn_cases separator rest with hno | ⟨second, others, hsecond, rfl⟩
    · rw [splitOn_of_notMem hno] at hrest
      obtain rfl : rest = b := by simpa using hrest
      exact ⟨hpiece, hno, rfl⟩
    · rw [splitOn_append_cons others hsecond] at hrest
      exact absurd (List.cons.inj hrest).2 (splitOn_ne_nil separator others)
  · rintro ⟨ha, hb, rfl⟩
    rw [splitOn_append_cons b ha, splitOn_of_notMem hb]

/-- Something without a separator that is put behind a text belongs to its last piece. -/
theorem exists_splitOn_append {separator : CodePoint} {ending : Text} (h : separator ∉ ending) :
    ∀ text : Text, ∃ pieces last,
      splitOn separator (text ++ ending) = pieces ++ [last] ∧ ending <:+ last
  | [] => ⟨[], ending, splitOn_of_notMem h, List.suffix_rfl⟩
  | c :: text => by
    obtain ⟨pieces, last, hsplit, hlast⟩ := exists_splitOn_append h text
    rw [List.cons_append, splitOn, hsplit]
    split
    · exact ⟨[] :: pieces, last, rfl, hlast⟩
    · cases pieces with
      | nil => exact ⟨[], c :: last, rfl, hlast.trans (List.suffix_cons c last)⟩
      | cons piece pieces => exact ⟨(c :: piece) :: pieces, last, rfl, hlast⟩

/-- Pieces that are put together end in the last one. -/
theorem suffix_joinWith_append (separator last : Text) :
    ∀ pieces : List Text, last <:+ joinWith separator (pieces ++ [last])
  | [] => by simp [joinWith, List.intercalate]
  | [piece] => by
    simp only [joinWith, List.intercalate, List.singleton_append, List.intersperse,
      List.flatten_cons, List.flatten_nil, List.append_nil]
    exact (List.suffix_append separator last).trans (List.suffix_append piece _)
  | piece :: next :: pieces => by
    refine (suffix_joinWith_append separator last (next :: pieces)).trans ?_
    simp only [joinWith, List.intercalate, List.cons_append, List.intersperse, List.flatten_cons]
    exact (List.suffix_append separator _).trans (List.suffix_append piece _)

/-! ### Lines -/

/-- What holds no line boundary is put in front of the first line of what stands behind it. -/
theorem lines_append_of_lines_eq_cons {rest first : Text} {others : List Text}
    (hrest : lines rest = first :: others) :
    ∀ {piece : Text}, (∀ c ∈ piece, c.isLineBoundary = false) →
      lines (piece ++ rest) = (piece ++ first) :: others
  | [], _ => hrest
  | c :: piece, h => by
    obtain ⟨hc, hpiece⟩ := List.forall_mem_cons.mp h
    have hcr : c ≠ 0x0D := by
      rintro rfl
      exact absurd hc (by decide)
    rw [List.cons_append, lines, if_neg fun hcr' => hcr hcr'.1, hc, if_neg Bool.false_ne_true,
      lines_append_of_lines_eq_cons hrest hpiece]
    rfl

/-- Without a line boundary a text is a line, which may end in any boundary. A CR before a LF does
not end the line by itself. -/
theorem lines_append_cons {boundary : CodePoint} {rest line : Text}
    (hboundary : boundary.isLineBoundary = true)
    (hpair : ¬ (boundary = 0x0D ∧ rest.head? = some 0x0A))
    (hline : ∀ c ∈ line, c.isLineBoundary = false) :
    lines (line ++ boundary :: rest) = line :: lines rest := by
  have hempty : lines (boundary :: rest) = [] :: lines rest := by
    rw [lines, if_neg hpair, if_pos hboundary]
  rw [lines_append_of_lines_eq_cons hempty hline, List.append_nil]

/-- A line may end in LF, whatever follows. -/
theorem lines_append_lineFeed {line : Text} (hline : ∀ c ∈ line, c.isLineBoundary = false)
    (rest : Text) : lines (line ++ 0x0A :: rest) = line :: lines rest :=
  lines_append_cons (by decide) (fun hcr => absurd hcr.1 (by decide)) hline

/-- A line may end in CR LF, which is one boundary. -/
theorem lines_append_pair {line : Text} (hline : ∀ c ∈ line, c.isLineBoundary = false)
    (rest : Text) : lines (line ++ 0x0D :: 0x0A :: rest) = line :: lines rest := by
  have hpair : lines (0x0D :: 0x0A :: rest) = [] :: lines rest := by
    rw [lines, if_pos ⟨rfl, rfl⟩]
    exact lines_append_lineFeed (List.forall_mem_nil _) rest
  rw [lines_append_of_lines_eq_cons hpair hline, List.append_nil]

/-- Lines that each end in a LF are cut into these lines again. -/
theorem lines_flatMap {α : Type} (line : α → Text) :
    ∀ {items : List α}, (∀ item ∈ items, ∀ c ∈ line item, c.isLineBoundary = false) →
      lines (items.flatMap fun item => line item ++ [0x0A]) = items.map line
  | [], _ => rfl
  | item :: items, h => by
    obtain ⟨hitem, hitems⟩ := List.forall_mem_cons.mp h
    rw [List.flatMap_cons, List.append_assoc, List.singleton_append, lines_append_lineFeed hitem,
      lines_flatMap line hitems, List.map_cons]

/-! ### Cut lines -/

/-- A text with a separator begins with a beginning of what stands before it, or with all of that,
the separator, and a beginning of what stands behind. -/
theorem prefix_append_cons_iff {cut a b : Text} {separator : CodePoint} :
    cut <+: a ++ separator :: b ↔
      cut <+: a ∨ ∃ rest, cut = a ++ separator :: rest ∧ rest <+: b := by
  constructor
  · rintro ⟨tail, htail⟩
    rcases List.append_eq_append_iff.mp htail with ⟨more, rfl, -⟩ | ⟨rest, rfl, hrest⟩
    · exact Or.inl (List.prefix_append cut more)
    · rcases List.append_eq_cons_iff.mp hrest.symm with ⟨rfl, -⟩ | ⟨rest, rfl, rfl⟩
      · exact Or.inl (by simp)
      · exact Or.inr ⟨rest, rfl, List.prefix_append rest tail⟩
  · rintro (h | ⟨rest, rfl, h⟩)
    · exact h.trans (List.prefix_append a _)
    · rwa [List.prefix_append_right_inj, List.prefix_cons_inj]

theorem lines_of_forall_not_boundary :
    ∀ {line : Text}, line ≠ [] → (∀ c ∈ line, c.isLineBoundary = false) → lines line = [line]
  | [], hne, _ => absurd rfl hne
  | [c], _, h => by
    have hc : c.isLineBoundary = false := h c List.mem_cons_self
    simp [lines, hc]
  | c :: d :: line, _, h => by
    obtain ⟨hc, hline⟩ := List.forall_mem_cons.mp h
    have hpair : ¬ (c = 0x0D ∧ (d :: line).head? = some 0x0A) := by
      rintro ⟨rfl, -⟩
      exact absurd hc (by decide)
    rw [lines, if_neg hpair, hc, if_neg Bool.false_ne_true,
      lines_of_forall_not_boundary (List.cons_ne_nil d line) hline]

/-- **Lines that are cut anywhere**: some of them are whole, and of the next one there is a
beginning at most. -/
theorem lines_of_cut {α : Type} (line : α → Text) :
    ∀ {items : List α} {cut : Text}, (∀ item ∈ items, ∀ c ∈ line item, c.isLineBoundary = false) →
      cut <+: (items.flatMap fun item => line item ++ [0x0A]) →
      ∃ front rest, items = front ++ rest ∧
        (lines cut = front.map line ∨
          ∃ item after piece, rest = item :: after ∧ piece <+: line item ∧
            lines cut = front.map line ++ [piece])
  | [], cut, _, hcut => by
    obtain rfl := List.prefix_nil.mp hcut
    exact ⟨[], [], rfl, Or.inl rfl⟩
  | item :: items, cut, h, hcut => by
    obtain ⟨hitem, hitems⟩ := List.forall_mem_cons.mp h
    rw [List.flatMap_cons, List.append_assoc, List.singleton_append, prefix_append_cons_iff] at hcut
    rcases hcut with hpiece | ⟨more, rfl, hmore⟩
    · refine ⟨[], item :: items, rfl, ?_⟩
      by_cases hne : cut = []
      · exact Or.inl (by rw [hne]; rfl)
      · have hline := lines_of_forall_not_boundary hne fun c hc => hitem c (hpiece.subset hc)
        exact Or.inr ⟨item, items, cut, rfl, hpiece, hline⟩
    · have hwhole : lines (line item ++ 0x0A :: more) = line item :: lines more :=
        lines_append_lineFeed hitem more
      obtain ⟨front, rest, rfl, hlines⟩ := lines_of_cut line hitems hmore
      refine ⟨item :: front, rest, rfl, ?_⟩
      rw [hwhole]
      rcases hlines with hlines | ⟨next, after, piece, hrest, hpiece, hlines⟩
      · exact Or.inl (by rw [hlines, List.map_cons])
      · exact Or.inr ⟨next, after, piece, hrest, hpiece, by rw [hlines]; rfl⟩

end LexBridge.Text
