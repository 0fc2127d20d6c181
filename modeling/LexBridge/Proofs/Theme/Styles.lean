import LexBridge.Proofs.Text.Utf8
import LexBridge.Proofs.Theme.Lookup
import LexBridge.Theme.Attributes
import LexBridge.Theme.Style
import Mathlib.Tactic.ByContra

/-!
# Which kind a style gives a selector to

The table of a style is made kind by kind. A kind puts an entry into it if it has a selector, nobody
has put an entry under this selector yet, and the style gives the kind any look: a colour, a
background or a font style. So an entry is never overwritten, and what stands under a selector in
the end is the look of the first kind that has one to offer. A face that says nothing leaves the
selector open for the kinds behind, while one with nothing but a font style takes it.

A token whose kind is that first kind therefore has just the colours of its own face. If none of the
kinds with its selector has a look, there is no entry under the selector, and the search for the
nearest entry goes on above it.

## Main definitions

* `Style.offer`: the look that a kind has to offer for a selector.
* `Style.First`: the first kind that has one.

## Main results

* `Style.lookup_visit`, `Style.lookup_foldl_visit`: what one kind and what many kinds do to the
  entries.
* `Theme.Table.entry?_ofStyle_eq_some_iff`, `Theme.Table.entry?_ofStyle_eq_none_iff`: the entries of
  the table of a style.
* `Theme.Table.ofStyle_first_look`: these entries, and the attributes that tokens have by them.
-/

namespace LexBridge

/-! ### Selectors of kinds -/

theorem CodePoint.ofChar_injective : Function.Injective ofChar := by
  intro a b h
  have hval : a.toNat = b.toNat := by
    rw [← val_ofChar, ← val_ofChar, h]
  exact Char.ext (UInt32.toNat_inj.mp hval)

/-- Texts that are written by literals are equal just if the literals are. -/
theorem Text.of_inj {a b : String} : of a = of b ↔ a = b := by
  rw [of, of, (List.map_injective_iff.mpr CodePoint.ofChar_injective).eq_iff, String.toList_inj]

theorem Text.of_eq_nil_iff {s : String} : of s = [] ↔ s = "" := by
  rw [of, List.map_eq_nil_iff, String.toList_eq_nil_iff]

namespace Kind

/-- Every kind has its turn. -/
theorem mem_all (kind : Kind) : kind ∈ all := by
  cases kind <;> decide

/-- No kind has the empty selector, under which nothing is ever looked up. -/
theorem ne_nil_of_selector? {kind : Kind} {selector : Text} (h : kind.selector? = some selector) :
    selector ≠ [] := by
  rintro rfl
  cases kind <;> simp [selector?, Text.of_eq_nil_iff] at h

end Kind

/-! ### Faces -/

theorem Face.signed_eq_none_iff {colour : Text} : signed colour = none ↔ colour = [] := by
  rw [signed]
  split <;> simp_all

/-- **A display style says nothing just if its face says nothing.** -/
theorem Scope.isEmpty_ofFace_iff {face : Face} :
    (Scope.ofFace face).isEmpty = true ↔ face = .plain := by
  obtain ⟨colour, background, bold, italic, underline⟩ := face
  simp only [isEmpty, ofFace, Bool.and_eq_true, Option.isNone_iff_eq_none,
    Face.signed_eq_none_iff, List.isEmpty_iff, List.append_eq_nil_iff, Face.plain, Face.mk.injEq]
  cases bold <;> cases italic <;> cases underline <;> simp

namespace Style

variable (style : Style) (selector : Text)

/-- The look that a kind has to offer for a selector: that of its face, if the selector is its own
and the face says anything. -/
def offer (kind : Kind) : Option Scope :=
  if kind.selector? = some selector ∧ style kind.label ≠ .plain then
    some (Scope.ofFace (style kind.label))
  else none

/-- The first kind that has a look to offer for a selector, with the kinds before it and those
behind it. -/
structure First (before : List Kind) (kind : Kind) (after : List Kind) : Prop where
  all_eq : Kind.all = before ++ kind :: after
  selector?_eq : kind.selector? = some selector
  face_ne_plain : style kind.label ≠ .plain
  face_before : ∀ earlier ∈ before, earlier.selector? = some selector →
    style earlier.label = .plain

variable {style selector}

theorem offer_eq_some_iff {kind : Kind} {scope : Scope} :
    style.offer selector kind = some scope ↔ kind.selector? = some selector ∧
      style kind.label ≠ .plain ∧ scope = Scope.ofFace (style kind.label) := by
  rw [offer, Option.ite_none_right_eq_some, and_assoc, Option.some_inj, eq_comm (b := scope)]

theorem offer_eq_none_iff {kind : Kind} :
    style.offer selector kind = none ↔
      (kind.selector? = some selector → style kind.label = .plain) := by
  rw [Option.eq_none_iff_forall_ne_some]
  constructor
  · intro h hselector
    by_contra hface
    exact h _ (offer_eq_some_iff.mpr ⟨hselector, hface, rfl⟩)
  · intro h scope hscope
    obtain ⟨hselector, hface, -⟩ := offer_eq_some_iff.mp hscope
    exact hface (h hselector)

theorem offer_of_ne {kind : Kind} (h : kind.selector? ≠ some selector) :
    style.offer selector kind = none :=
  offer_eq_none_iff.mpr fun hselector => absurd hselector h

/-! ### Making the table -/

/-- **A kind adds what it has to offer**, but only where there is nothing yet. -/
theorem lookup_visit (entries : Entries) (kind : Kind) :
    (style.visit entries kind).scopes.lookup selector =
      (entries.scopes.lookup selector).or (style.offer selector kind) := by
  cases hown : kind.selector? with
  | none =>
    have hoffer : style.offer selector kind = none := offer_of_ne (by simp [hown])
    simp only [visit, hown, hoffer, Option.or_none]
  | some own =>
    by_cases htaken : (entries.scopes.lookup own).isSome = true
    · simp only [visit, hown, if_pos htaken]
      by_cases hsame : own = selector
      · rw [Option.or_of_isSome (hsame ▸ htaken)]
      · rw [offer_of_ne (by simp [hown, hsame]), Option.or_none]
    · simp only [visit, hown, if_neg htaken]
      by_cases hface : style kind.label = .plain
      · rw [if_pos (Scope.isEmpty_ofFace_iff.mpr hface),
          offer_eq_none_iff.mpr fun _ => hface, Option.or_none]
      · rw [if_neg (mt Scope.isEmpty_ofFace_iff.mp hface), List.lookup_append]
        congr 1
        by_cases hsame : own = selector
        · rw [offer_eq_some_iff.mpr ⟨hown.trans (congrArg some hsame), hface, rfl⟩, hsame]
          exact List.lookup_cons_self
        · rw [offer_of_ne (by simp [hown, hsame]), List.lookup_cons,
            beq_false_of_ne (Ne.symm hsame), List.lookup_nil]

/-- **The first of many kinds wins.** -/
theorem lookup_foldl_visit (kinds : List Kind) (entries : Entries) :
    (kinds.foldl style.visit entries).scopes.lookup selector =
      (entries.scopes.lookup selector).or (kinds.findSome? (style.offer selector)) := by
  induction kinds generalizing entries with
  | nil => rw [List.foldl_nil, List.findSome?_nil, Option.or_none]
  | cons kind kinds ih =>
    rw [List.foldl_cons, ih, lookup_visit, Option.or_assoc, List.findSome?_cons]
    cases style.offer selector kind <;> rfl

end Style

/-! ### The table of a style -/

theorem Token.attributes_of_selector? {theme : Theme} {token : Token} {selector : Text}
    (h : token.kind.selector? = some selector) :
    token.attributes theme =
      (theme selector).elim .none fun scope => ⟨scope.foreground, scope.background⟩ := by
  rw [attributes, h, Option.bind_some]
  cases theme selector <;> rfl

namespace Theme.Table

variable {name : Value} {style : Style} {selector : Text}

theorem entry?_ofStyle (name : Value) (style : Style) (selector : Text) :
    entry? (ofStyle name style) selector =
      Kind.all.findSome? (style.offer selector) := by
  unfold entry?
  rw [ofStyle, Style.entries, Style.lookup_foldl_visit, List.lookup_nil, Option.none_or]

/-- **The entry of a selector is the look of the first kind that has one to offer.** -/
theorem entry?_ofStyle_eq_some_iff {scope : Scope} :
    entry? (ofStyle name style) selector = some scope ↔
      ∃ before kind after, style.First selector before kind after ∧
        scope = Scope.ofFace (style kind.label) := by
  rw [entry?_ofStyle, List.findSome?_eq_some_iff]
  constructor
  · rintro ⟨before, kind, after, hall, hoffer, hbefore⟩
    obtain ⟨hselector, hface, hscope⟩ := Style.offer_eq_some_iff.mp hoffer
    exact ⟨before, kind, after, ⟨hall, hselector, hface,
      fun earlier hearlier => Style.offer_eq_none_iff.mp (hbefore earlier hearlier)⟩, hscope⟩
  · rintro ⟨before, kind, after, ⟨hall, hselector, hface, hbefore⟩, hscope⟩
    exact ⟨before, kind, after, hall, Style.offer_eq_some_iff.mpr ⟨hselector, hface, hscope⟩,
      fun earlier hearlier => Style.offer_eq_none_iff.mpr (hbefore earlier hearlier)⟩

/-- **A selector has no entry just if no kind has a look to offer for it.** -/
theorem entry?_ofStyle_eq_none_iff :
    entry? (ofStyle name style) selector = none ↔
      ∀ kind : Kind, kind.selector? = some selector → style kind.label = .plain := by
  rw [entry?_ofStyle, List.findSome?_eq_none_iff]
  simp only [Style.offer_eq_none_iff, Kind.mem_all, true_imp_iff]

/-- The first kind with a look has the colours of its own face. -/
theorem attributes_ofStyle_of_first {token : Token} {before after : List Kind}
    (h : style.First selector before token.kind after) :
    token.attributes (ofStyle name style).resolve =
      ⟨Face.signed (style token.kind.label).colour,
        Face.signed (style token.kind.label).background⟩ := by
  have hentry : entry? (ofStyle name style) selector = some _ :=
    entry?_ofStyle_eq_some_iff.mpr ⟨before, token.kind, after, h, rfl⟩
  have hresolve := resolve_of_entry?_eq_some (Kind.ne_nil_of_selector? h.selector?_eq) hentry
  rw [Token.attributes_of_selector? h.selector?_eq, hresolve]
  rfl

/-- **A style gives a selector to the first kind that has a look for it.** The table of a style has
an entry for a selector just if the style gives some kind with this selector a look, be it a font
style only, and the entry is the look of the first such kind in the order of the kinds. So the
tokens of that kind have just the colours of its own face, each behind a number sign. If no kind
with a selector has a look, the tokens of these kinds have the colours of the nearest entry above
the selector, or none. -/
theorem ofStyle_first_look (name : Value) (style : Style) :
    let table := ofStyle name style
    (∀ selector, table.entry? selector ≠ none ↔
        ∃ kind : Kind, kind.selector? = some selector ∧ style kind.label ≠ .plain) ∧
      (∀ selector scope, table.entry? selector = some scope ↔
        ∃ before kind after, style.First selector before kind after ∧
          scope = Scope.ofFace (style kind.label)) ∧
      (∀ (token : Token) (selector : Text) (before after : List Kind),
        style.First selector before token.kind after →
          let face := style token.kind.label
          token.attributes table.resolve =
            ⟨if face.colour = [] then none else some (.text (0x23 :: face.colour)),
              if face.background = [] then none else some (.text (0x23 :: face.background))⟩) ∧
      ∀ (token : Token) (selector : Text), token.kind.selector? = some selector →
        (∀ kind : Kind, kind.selector? = some selector → style kind.label = .plain) →
          (∃ key scope, key ++ [0x2E] <+: selector ∧ table.Nearest selector key scope ∧
              token.attributes table.resolve = ⟨scope.foreground, scope.background⟩) ∨
            (∀ key, Covers key selector → table.entry? key = none) ∧
              token.attributes table.resolve = .none := by
  intro table
  refine ⟨fun selector => ?_, fun _ _ => entry?_ofStyle_eq_some_iff,
    fun _ _ _ _ => attributes_ofStyle_of_first, fun token selector hselector hplain => ?_⟩
  · rw [Ne, entry?_ofStyle_eq_none_iff]
    simp only [not_forall, exists_prop]
  · rw [Token.attributes_of_selector? hselector]
    have hentry : table.entry? selector = none := entry?_ofStyle_eq_none_iff.mpr hplain
    rcases resolve_cases_of_entry?_eq_none hentry with
      ⟨key, scope, habove, hnearest, hresolve⟩ | ⟨hnone, hresolve⟩
    · exact Or.inl ⟨key, scope, habove, hnearest, by rw [hresolve, Option.elim_some]⟩
    · exact Or.inr ⟨hnone, by rw [hresolve, Option.elim_none]⟩

/-- A selector that two kinds share, of which only the second has a look, and that is a font style;
and a selector with two dots, for which nothing is nearer than its first segment. -/
theorem ofStyle_first_look_shared :
    let style : Style := fun label =>
      if label = Kind.keywordType.label then { Face.plain with bold := true }
      else if label = Kind.keyword.label then { Face.plain with colour := Text.of "f00" }
      else .plain
    let table := ofStyle .null style
    let word : Text := Text.of "keyword.operator.word"
    style.First (Text.of "storage.type") (Kind.all.take 12) .keywordType (Kind.all.drop 13) ∧
      (⟨.keywordType, [0x69]⟩ : Token).attributes table.resolve = .none ∧
      Kind.operatorWord.selector? = some word ∧
      (∀ kind : Kind, kind.selector? = some word → style kind.label = .plain) ∧
      ∃ key scope, key ++ [0x2E] <+: word ∧ table.Nearest word key scope ∧
        (⟨.operatorWord, [0x69]⟩ : Token).attributes table.resolve =
          ⟨scope.foreground, scope.background⟩ := by
  intro style table word
  obtain ⟨hsome, -, hown, habove⟩ := ofStyle_first_look .null style
  have hfirst : style.First (Text.of "storage.type") (Kind.all.take 12) .keywordType
      (Kind.all.drop 13) := by
    refine ⟨by decide +kernel, rfl, by decide +kernel, fun earlier hearlier hselector => ?_⟩
    cases earlier <;> simp [Kind.selector?, Text.of_inj] at hselector
    · decide +kernel
    · exact absurd hearlier (by decide +kernel)
  have hplain : ∀ kind : Kind, kind.selector? = some word → style kind.label = .plain := by
    intro kind hselector
    cases kind <;> simp [Kind.selector?, word, Text.of_inj] at hselector
    decide +kernel
  refine ⟨hfirst, ?_, rfl, hplain, ?_⟩
  · exact (hown ⟨.keywordType, [0x69]⟩ _ _ _ hfirst).trans (by decide +kernel)
  · rcases habove ⟨.operatorWord, [0x69]⟩ word rfl hplain with hnearest | ⟨hnone, -⟩
    · exact hnearest
    · have hkeyword : Covers (Text.of "keyword") word :=
        ⟨by decide +kernel, Or.inr (by decide +kernel)⟩
      exact absurd (hnone _ hkeyword)
        ((hsome _).mpr ⟨.keyword, rfl, by decide +kernel⟩)

end Theme.Table

end LexBridge
