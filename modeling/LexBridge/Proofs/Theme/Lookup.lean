import LexBridge.Theme.Table
import Mathlib.Data.List.Forall2
import Mathlib.Data.List.TakeWhile

/-!
# The nearest entry of a selector

A selector is looked up round by round. A round asks for the entry of a candidate, the first of
which is the selector itself; if there is none, the candidate is cut before its last dot, and the
next round begins. The search ends where it finds an entry or where nothing is left of the
candidate. Nothing is known about the dots of a selector, so a candidate may end in a dot, or be
nothing but dots.

The rounds go through just the keys that *cover* the selector: the selector itself and whatever
stands in it before one of its dots, the empty key left out. They go from the longest of them to the
shortest, since cutting before the last dot takes away as little as possible. So the entry that is
found is the one with the longest key, even if its style says nothing.

## Main definitions

* `Text.beforeLast`: a text up to its last separator.
* `Theme.Covers`: the keys whose entries are for a selector.
* `Theme.Table.Climbs`: the search, round by round.
* `Theme.Table.Nearest`: the entry with the longest key that covers a selector.

## Main results

* `Theme.mem_candidates_iff`, `Theme.pairwise_candidates`: the candidates are the keys that cover
  the selector, longest first.
* `Theme.Table.climbs_iff`: the search ends for every selector, with the style of the selector.
* `Theme.Table.resolve_eq_some_iff`, `Theme.Table.resolve_eq_none_iff`: which style that is.
* `Theme.Table.entry?_ofMappings`: the entries of a table that is made of mappings.
-/

namespace LexBridge

/-! ### The last separator -/

/-- What stands before the last separator of a text, and nothing if there is no separator. -/
def Text.beforeLast (separator : CodePoint) (text : Text) : Text :=
  (text.reverse.dropWhile fun c => c ≠ separator).tail.reverse

namespace Text

variable {separator : CodePoint} {text last : Text}

theorem beforeLast_of_notMem (h : separator ∉ text) : beforeLast separator text = [] := by
  have hall : (text.reverse.dropWhile fun c => c ≠ separator) = [] := by
    rw [List.dropWhile_eq_nil_iff]
    intro c hc
    exact decide_eq_true (ne_of_mem_of_not_mem (List.mem_reverse.mp hc) h)
  rw [beforeLast, hall, List.tail_nil, List.reverse_nil]

theorem beforeLast_append_cons (parent : Text) (h : separator ∉ last) :
    beforeLast separator (parent ++ separator :: last) = parent := by
  have hlast : ∀ c ∈ last.reverse, decide (c ≠ separator) = true := fun c hc =>
    decide_eq_true (ne_of_mem_of_not_mem (List.mem_reverse.mp hc) h)
  have hreverse : (parent ++ separator :: last).reverse =
      last.reverse ++ separator :: parent.reverse := by
    simp only [List.reverse_append, List.reverse_cons, List.append_assoc, List.singleton_append]
  rw [beforeLast, hreverse, List.dropWhile_append_of_pos hlast,
    List.dropWhile_cons_of_neg (by simp), List.tail_cons, List.reverse_reverse]

/-- A text either has no separator, or is what stands before the last one, and a piece behind. -/
theorem beforeLast_cases (separator : CodePoint) (text : Text) :
    (separator ∉ text ∧ beforeLast separator text = []) ∨
      ∃ last, separator ∉ last ∧ text = beforeLast separator text ++ separator :: last := by
  by_cases h : separator ∈ text
  · obtain ⟨front, back, hreverse, hfront⟩ :=
      List.eq_append_cons_of_mem (List.mem_reverse.mpr h)
    have htext : text = back.reverse ++ separator :: front.reverse := by
      rw [← List.reverse_reverse text, hreverse]
      simp only [List.reverse_append, List.reverse_cons, List.append_assoc, List.singleton_append]
    have hlast : separator ∉ front.reverse := mt List.mem_reverse.mp hfront
    refine Or.inr ⟨front.reverse, hlast, ?_⟩
    rw [htext, beforeLast_append_cons _ hlast]
  · exact Or.inl ⟨h, beforeLast_of_notMem h⟩

theorem length_beforeLast_lt (separator : CodePoint) (h : text ≠ []) :
    (beforeLast separator text).length < text.length := by
  rcases beforeLast_cases separator text with ⟨-, hnone⟩ | ⟨last, -, htext⟩
  · rw [hnone]
    exact List.length_pos_iff.mpr h
  · have hlength := congrArg List.length htext
    rw [List.length_append, List.length_cons] at hlength
    omega

end Text

namespace Theme

/-! ### Candidates -/

/-- A key covers a selector if it is the selector, or stands in it before one of its dots. The empty
key covers nothing. -/
def Covers (key selector : Text) : Prop :=
  key ≠ [] ∧ (key = selector ∨ key ++ [0x2E] <+: selector)

theorem ancestors_of_notMem : ∀ {selector : Text}, 0x2E ∉ selector → ancestors selector = []
  | [], _ => rfl
  | c :: rest, h => by
    obtain ⟨hc, hrest⟩ := not_or.mp (mt List.mem_cons.mpr h)
    simp only [ancestors, ancestors_of_notMem hrest, if_neg (Ne.symm hc), List.map_nil]

/-- The longest ancestor is what stands before the last dot. -/
theorem ancestors_append_cons {last : Text} (h : 0x2E ∉ last) :
    ∀ parent : Text, ancestors (parent ++ 0x2E :: last) = ancestors parent ++ [parent]
  | [] => by simp only [List.nil_append, ancestors, ancestors_of_notMem h, List.map_nil, if_pos]
  | c :: parent => by
    simp only [List.cons_append, ancestors, ancestors_append_cons h parent, List.map_append,
      List.map_cons, List.map_nil]
    split <;> rfl

/-- The ancestors of a selector are the texts that stand in it before a dot. -/
theorem mem_ancestors_iff {key : Text} :
    ∀ {selector : Text}, key ∈ ancestors selector ↔ key ++ [0x2E] <+: selector
  | [] => by simp [ancestors]
  | c :: rest => by
    cases key with
    | nil =>
      by_cases hc : c = 0x2E
      · simp [ancestors, hc]
      · simp [ancestors, hc, Ne.symm hc]
    | cons d tail =>
      have hlonger : d :: tail ∈ (ancestors rest).map (c :: ·) ↔
          d = c ∧ tail ++ [0x2E] <+: rest := by
        rw [List.mem_map]
        constructor
        · rintro ⟨key, hkey, heq⟩
          obtain ⟨rfl, rfl⟩ := List.cons.inj heq
          exact ⟨rfl, mem_ancestors_iff.mp hkey⟩
        · rintro ⟨rfl, htail⟩
          exact ⟨tail, mem_ancestors_iff.mpr htail, rfl⟩
      have hmem : d :: tail ∈ ancestors (c :: rest) ↔
          d :: tail ∈ (ancestors rest).map (c :: ·) := by
        rw [ancestors]
        split <;> simp
      rw [hmem, hlonger, List.cons_append, List.cons_prefix_cons]

theorem pairwise_ancestors :
    ∀ selector : Text, (ancestors selector).Pairwise fun a b => a.length < b.length
  | [] => .nil
  | c :: rest => by
    have hlonger : ((ancestors rest).map (c :: ·)).Pairwise fun a b => a.length < b.length := by
      rw [List.pairwise_map]
      exact (pairwise_ancestors rest).imp Nat.succ_lt_succ
    rw [ancestors]
    split
    · refine List.pairwise_cons.mpr ⟨fun key hkey => ?_, hlonger⟩
      obtain ⟨tail, -, rfl⟩ := List.mem_map.mp hkey
      exact Nat.succ_pos _
    · exact hlonger

theorem candidates_nil : candidates [] = [] := rfl

/-- The candidates are the selector, and the candidates of what stands before its last dot. -/
theorem candidates_of_ne_nil {selector : Text} (h : selector ≠ []) :
    candidates selector = selector :: candidates (selector.beforeLast 0x2E) := by
  have hkeep (others : List Text) :
      (selector :: others).filter (fun candidate => candidate ≠ []) =
        selector :: others.filter fun candidate => candidate ≠ [] :=
    List.filter_cons_of_pos (decide_eq_true h)
  rcases Text.beforeLast_cases 0x2E selector with ⟨hdot, hnone⟩ | ⟨last, hlast, hselector⟩
  · rw [hnone, candidates_nil, candidates, ancestors_of_notMem hdot, List.reverse_nil,
      hkeep, List.filter_nil]
  · have hancestors : ancestors selector =
        ancestors (selector.beforeLast 0x2E) ++ [selector.beforeLast 0x2E] := by
      conv_lhs => rw [hselector]
      exact ancestors_append_cons hlast _
    rw [candidates, hancestors, List.reverse_append, List.reverse_singleton,
      List.singleton_append, hkeep, candidates]

/-- **The candidates are the keys that cover the selector.** -/
theorem mem_candidates_iff {key selector : Text} :
    key ∈ candidates selector ↔ Covers key selector := by
  rw [candidates, List.mem_filter, List.mem_cons, List.mem_reverse, mem_ancestors_iff,
    decide_eq_true_iff, and_comm, Covers]

/-- A key that is only the beginning of a segment does not cover the selector. -/
example : Text.of "str" ∉ candidates (Text.of "string.quoted") := by decide +kernel

/-- **The longest candidate comes first.** -/
theorem pairwise_candidates (selector : Text) :
    (candidates selector).Pairwise fun a b => b.length < a.length := by
  refine List.Pairwise.filter _ (List.pairwise_cons.mpr ⟨fun key hkey => ?_, ?_⟩)
  · obtain ⟨after, rfl⟩ := mem_ancestors_iff.mp (List.mem_reverse.mp hkey)
    simp only [List.length_append, List.length_singleton]
    omega
  · exact List.pairwise_reverse.mpr (pairwise_ancestors selector)

namespace Table

variable {table : Table} {selector : Text} {scope : Scope}

/-! ### The search -/

/-- The search for the entry of a selector, round by round: it ends with nothing when nothing is
left of the candidate, it ends with the entry of the candidate if there is one, and else it goes on
with what stands before the last dot of the candidate. -/
inductive Climbs (table : Table) : Text → Option Scope → Prop
  | ended : Climbs table [] none
  | found {candidate : Text} {scope : Scope} (hcandidate : candidate ≠ [])
      (hentry : table.entry? candidate = some scope) : Climbs table candidate (some scope)
  | climb {candidate : Text} {answer : Option Scope} (hcandidate : candidate ≠ [])
      (hentry : table.entry? candidate = none)
      (hnext : Climbs table (candidate.beforeLast 0x2E) answer) : Climbs table candidate answer

theorem resolve_nil (table : Table) : table.resolve [] = none := rfl

theorem resolve_of_entry?_eq_some (h : selector ≠ [])
    (hentry : table.entry? selector = some scope) : table.resolve selector = some scope := by
  rw [resolve, candidates_of_ne_nil h, List.findSome?_cons, hentry]

theorem resolve_of_entry?_eq_none (h : selector ≠ []) (hentry : table.entry? selector = none) :
    table.resolve selector = table.resolve (selector.beforeLast 0x2E) := by
  rw [resolve, candidates_of_ne_nil h, List.findSome?_cons, hentry, resolve]

/-- A search ends, because every round makes the candidate shorter. -/
theorem climbs_resolve (table : Table) (selector : Text) :
    table.Climbs selector (table.resolve selector) := by
  by_cases h : selector = []
  · rw [h, resolve_nil]
    exact .ended
  · cases hentry : table.entry? selector with
    | some scope =>
      rw [resolve_of_entry?_eq_some h hentry]
      exact .found h hentry
    | none =>
      rw [resolve_of_entry?_eq_none h hentry]
      exact .climb h hentry (climbs_resolve table (selector.beforeLast 0x2E))
termination_by selector.length
decreasing_by exact Text.length_beforeLast_lt 0x2E h

/-- **Every search ends, and with the style of the selector.** -/
theorem climbs_iff {answer : Option Scope} :
    table.Climbs selector answer ↔ answer = table.resolve selector := by
  constructor
  · intro h
    induction h with
    | ended => exact resolve_nil table
    | found hcandidate hentry => exact (resolve_of_entry?_eq_some hcandidate hentry).symm
    | climb hcandidate hentry _ ih => rw [ih, resolve_of_entry?_eq_none hcandidate hentry]
  · rintro rfl
    exact climbs_resolve table selector

/-! ### The nearest entry -/

/-- The entry of a table that is nearest to a selector: no longer key that covers the selector has
an entry. -/
structure Nearest (table : Table) (selector key : Text) (scope : Scope) : Prop where
  covers : Covers key selector
  entry?_eq : table.entry? key = some scope
  length_le : ∀ other, Covers other selector → table.entry? other ≠ none →
    other.length ≤ key.length

/-- **A selector gets the style of the nearest entry.** -/
theorem resolve_eq_some_iff :
    table.resolve selector = some scope ↔ ∃ key, table.Nearest selector key scope := by
  have hsorted := pairwise_candidates selector
  rw [resolve, List.findSome?_eq_some_iff]
  constructor
  · rintro ⟨longer, key, shorter, hall, hentry, hnone⟩
    rw [hall, List.pairwise_append, List.pairwise_cons] at hsorted
    obtain ⟨-, ⟨hshorter, -⟩, -⟩ := hsorted
    refine ⟨key, mem_candidates_iff.mp (hall ▸ by simp), hentry, fun other hother hsome => ?_⟩
    have hmem : other ∈ longer ++ key :: shorter := hall ▸ mem_candidates_iff.mpr hother
    rcases List.mem_append.mp hmem with hlonger | hrest
    · exact absurd (hnone other hlonger) hsome
    · rcases List.mem_cons.mp hrest with rfl | hmem
      · exact Nat.le_refl _
      · exact Nat.le_of_lt (hshorter other hmem)
  · rintro ⟨key, hcovers, hentry, hlongest⟩
    obtain ⟨longer, shorter, hall⟩ := List.append_of_mem (mem_candidates_iff.mpr hcovers)
    refine ⟨longer, key, shorter, hall, hentry, fun other hother => ?_⟩
    rw [hall, List.pairwise_append] at hsorted
    by_contra hsome
    have hcovered : Covers other selector :=
      mem_candidates_iff.mp (hall ▸ List.mem_append_left _ hother)
    have hle := hlongest other hcovered hsome
    have hlt := hsorted.2.2 other hother key List.mem_cons_self
    omega

/-- **A selector has no style just if no key that covers it has an entry.** -/
theorem resolve_eq_none_iff :
    table.resolve selector = none ↔ ∀ key, Covers key selector → table.entry? key = none := by
  rw [resolve, List.findSome?_eq_none_iff]
  simp only [mem_candidates_iff]

/-- **A selector without an entry of its own is looked up above.** Either the nearest entry is that
of a key which stands in the selector before a dot, or there is no entry at all. -/
theorem resolve_cases_of_entry?_eq_none (h : table.entry? selector = none) :
    (∃ key scope, key ++ [0x2E] <+: selector ∧ table.Nearest selector key scope ∧
        table.resolve selector = some scope) ∨
      (∀ key, Covers key selector → table.entry? key = none) ∧ table.resolve selector = none := by
  cases hresolve : table.resolve selector with
  | none => exact Or.inr ⟨resolve_eq_none_iff.mp hresolve, rfl⟩
  | some scope =>
    obtain ⟨key, hnearest⟩ := resolve_eq_some_iff.mp hresolve
    obtain ⟨-, rfl | habove⟩ := hnearest.covers
    · exact absurd (h.symm.trans hnearest.entry?_eq) (Option.some_ne_none scope).symm
    · exact Or.inl ⟨key, scope, habove, hnearest, rfl⟩

/-! ### Tables of mappings -/

/-- What is made of the items of a list one by one stands beside the items. -/
theorem forall₂_of_mapM {α β ε : Type} {f : α → Except ε β} :
    ∀ {items : List α} {results : List β}, items.mapM f = .ok results →
      List.Forall₂ (fun item result => f item = .ok result) items results
  | [], results, h => by
    obtain rfl : [] = results := Except.ok.inj h
    exact .nil
  | item :: items, results, h => by
    rw [List.mapM_cons] at h
    cases hitem : f item with
    | error failure => simp [hitem, bind, Except.bind] at h
    | ok result =>
      cases hitems : items.mapM f with
      | error failure => simp [hitem, hitems, bind, Except.bind] at h
      | ok others =>
        obtain rfl : result :: others = results := by
          simpa [hitem, hitems, bind, Except.bind, pure, Except.pure] using h
        exact .cons hitem (forall₂_of_mapM hitems)

/-- Styles that stand beside mappings are found under the same selectors. -/
theorem lookup_of_forall₂ {mappings : List (Text × Value)} {scopes : List (Text × Scope)}
    (h : List.Forall₂ (fun field entry => entry.1 = field.1 ∧
      Scope.ofMapping field.2 = .ok entry.2) mappings scopes) (key : Text) :
    scopes.lookup key = (mappings.lookup key).bind fun mapping =>
      (Scope.ofMapping mapping).toOption := by
  induction h with
  | nil => rfl
  | @cons field entry mappings scopes hfield _ ih =>
    obtain ⟨selector, mapping⟩ := field
    obtain ⟨selector', scope⟩ := entry
    obtain ⟨rfl, hscope⟩ : selector' = selector ∧ Scope.ofMapping mapping = .ok scope := hfield
    rw [List.lookup_cons, List.lookup_cons]
    cases key == selector' with
    | true => rw [Option.bind_some, hscope, Except.toOption]
    | false => exact ih

/-- **The entries of a table of mappings are the styles of the mappings.** -/
theorem entry?_ofMappings {name : Value} {mappings : List (Text × Value)}
    (h : ofMappings name (.object mappings) = .ok table) (key : Text) :
    table.entry? key = some scope ↔
      ∃ mapping, mappings.lookup key = some mapping ∧ Scope.ofMapping mapping = .ok scope := by
  have hscopes : List.Forall₂ (fun field entry => entry.1 = field.1 ∧
      Scope.ofMapping field.2 = .ok entry.2) mappings table.scopes := by
    simp only [ofMappings, Value.fields, bind, Except.bind] at h
    split at h
    · cases h
    · rename_i scopes hscopes
      obtain rfl := Except.ok.inj h
      refine (forall₂_of_mapM hscopes).imp fun field entry hfield => ?_
      cases hscope : Scope.ofMapping field.2 with
      | error fault => simp [hscope, Except.map] at hfield
      | ok scope =>
        obtain rfl : (field.1, scope) = entry := by simpa [hscope, Except.map] using hfield
        exact ⟨rfl, rfl⟩
  unfold entry?
  rw [lookup_of_forall₂ hscopes, Option.bind_eq_some_iff]
  refine exists_congr fun mapping => and_congr_right fun _ => ?_
  cases Scope.ofMapping mapping <;> simp [Except.toOption]

/-- **The longest key wins.** The search ends for every table and every selector, whatever its dots
are, and it ends with the style of the selector. That is the style of the entry with the longest key
that is the selector or stands in it before a dot, the empty key left out; if there is no such
entry, there is no style. In a table of mappings, the entry of a key is the style of its mapping. -/
theorem resolve_longest (table : Table) (selector : Text) :
    (∀ answer, table.Climbs selector answer ↔ answer = table.resolve selector) ∧
      (∀ scope, table.resolve selector = some scope ↔ ∃ key, table.Nearest selector key scope) ∧
      (table.resolve selector = none ↔ ∀ key, Covers key selector → table.entry? key = none) ∧
      ∀ name mappings, ofMappings name (.object mappings) = .ok table → ∀ key scope,
        table.entry? key = some scope ↔
          ∃ mapping, mappings.lookup key = some mapping ∧ Scope.ofMapping mapping = .ok scope :=
  ⟨fun _ => climbs_iff, fun _ => resolve_eq_some_iff, resolve_eq_none_iff,
    fun _ _ h key _ => entry?_ofMappings h key⟩

/-- Two dots in a row, an entry for the empty key, and a style that says nothing and still hides the
entry above it. -/
theorem resolve_longest_hidden :
    let mappings := [(Text.of "a", Value.object [(Text.of "foreground", .text (Text.of "red"))]),
      ([], .object [(Text.of "foreground", .text (Text.of "blue"))]), (Text.of "a.b", .object [])]
    let table : Table := ⟨.null, [(Text.of "a", ⟨some (.text (Text.of "red")), none, []⟩),
      ([], ⟨some (.text (Text.of "blue")), none, []⟩), (Text.of "a.b", ⟨none, none, []⟩)]⟩
    ofMappings .null (.object mappings) = .ok table ∧
      table.entry? (Text.of "a.b") = some ⟨none, none, []⟩ ∧
      table.Climbs (Text.of "a.b..c") (some ⟨none, none, []⟩) ∧
      ∀ key, Covers key (Text.of ".b") → table.entry? key = none := by
  intro mappings table
  have htable : ofMappings .null (.object mappings) = .ok table := by with_unfolding_all rfl
  obtain ⟨hclimbs, -, -, hentries⟩ := resolve_longest table (Text.of "a.b..c")
  obtain ⟨-, -, hnone, -⟩ := resolve_longest table (Text.of ".b")
  refine ⟨htable, ?_, ?_, hnone.mp (by decide +kernel)⟩
  · exact (hentries _ _ htable _ _).mpr ⟨.object [], by decide +kernel, by with_unfolding_all rfl⟩
  · exact (hclimbs _).mpr (by decide +kernel)

end Table

end Theme

end LexBridge
