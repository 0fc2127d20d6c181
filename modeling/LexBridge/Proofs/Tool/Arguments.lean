import LexBridge.Proofs.Text.Cutting
import LexBridge.Tool.Arguments
import Mathlib.Tactic.ByContra

/-!
# Reading a command line

An argument is read by itself, before it is known what stands around it. So a value that looks like
an option is never the value of an option, whatever it is meant for, and an option counts wherever
it stands before the divider.

What looks like an option is said here by the characters of the argument: a dash with the letter of
an option behind it, or the beginning of the long name of the help option, or anything else behind a
dash that is neither a number nor holds a space.

## Main definitions

* `Tool.NamesFlag`, `Tool.NamesHelp`: texts that name an option by its letter, or by its long name.
* `Tool.LooksLikeOption`: texts that are never values.
* `Tool.Reads`: what a text may be read as.
* `Tool.OfText`, `Tool.Arguments.OfTexts`: what texts may give.

## Main results

* `Tool.reads_textItem`: a text is read as one of four things.
* `Tool.textItem_eq_plain_iff`, `Tool.exists_textItem_eq_letter_iff`: which texts are plain, and
  which are an option.
* `Tool.items_texts`: what all arguments are.
* `Tool.Arguments.parse_eq_ok_iff`: when the arguments are accepted.
* `Tool.Arguments.ofTexts_parse`: what a command line of texts comes to.
* `Tool.Arguments.guess_ne_null_iff`: a file name to guess for is given just if its option is.
-/

namespace LexBridge.Tool

/-! ### One argument -/

/-- A dash, the letter of an option, and whatever follows. -/
def NamesFlag (text : Text) (flag : Flag) : Prop :=
  ∃ c rest, text = dash :: c :: rest ∧ Flag.ofLetter? c = some flag

/-- Two dashes and a beginning of the long name of the help option, up to an equals sign. -/
def NamesHelp (text : Text) : Prop :=
  ∃ rest, text = dash :: dash :: rest ∧ text.takeWhile (· ≠ 0x3D) <+: longHelpName

/-- A dash with something behind it, which names an option, or else is no negative number and holds
no space. -/
def LooksLikeOption (text : Text) : Prop :=
  text.head? = some dash ∧ text ≠ [dash] ∧
    ((∃ flag, NamesFlag text flag) ∨ NamesHelp text ∨
      isNegativeNumber text = false ∧ 0x20 ∉ text)

/-- What a text may be read as, where options are possible. -/
inductive Reads (text : Text) : Item → Prop
  | plain (h : ¬ LooksLikeOption text) : Reads text (.plain (.text text))
  | letter {flag : Flag} (h : NamesFlag text flag) (attached : Option Text) :
      Reads text (.letter flag attached)
  | longHelp (h : NamesHelp text) (attached : Option Text) : Reads text (.longHelp attached)
  | unknown (h : LooksLikeOption text) (hflag : ∀ flag, ¬ NamesFlag text flag) :
      Reads text (.unknown text)

theorem ofLetter?_dash : Flag.ofLetter? dash = none := by decide

/-- An option that is named in full is named by its letter or by the whole long name. -/
theorem exactOption?_cases (c : CodePoint) (rest : Text) :
    exactOption? (dash :: c :: rest) = none ∨
      (∃ flag attached, exactOption? (dash :: c :: rest) = some (.letter flag attached) ∧
        Flag.ofLetter? c = some flag) ∨
      ∃ attached, exactOption? (dash :: c :: rest) = some (.longHelp attached) ∧
        (dash :: c :: rest).takeWhile (· ≠ 0x3D) = longHelpName := by
  have hdash : (dash :: c :: rest).takeWhile (· ≠ 0x3D) =
      dash :: (c :: rest).takeWhile (· ≠ 0x3D) :=
    List.takeWhile_cons_of_pos (by decide)
  have hname : (splitAssignment (dash :: c :: rest)).1 = dash :: (c :: rest).takeWhile (· ≠ 0x3D) :=
    hdash
  rw [hdash, exactOption?]
  generalize splitAssignment (dash :: c :: rest) = parts at hname ⊢
  obtain ⟨name, value⟩ := parts
  obtain rfl : name = dash :: (c :: rest).takeWhile (· ≠ 0x3D) := hname
  dsimp only
  split
  case h_1 a letter hletter =>
    rw [List.takeWhile_cons] at hletter
    split at hletter
    · obtain ⟨rfl, htail⟩ := List.cons.inj hletter
      obtain ⟨rfl, -⟩ := List.cons.inj htail
      rw [if_pos rfl]
      cases hflag : Flag.ofLetter? c with
      | none => exact Or.inl rfl
      | some flag => exact Or.inr (Or.inl ⟨flag, value, rfl, rfl⟩)
    · cases hletter
  case h_2 =>
    split
    case isTrue hlong => exact Or.inr (Or.inr ⟨value, rfl, hlong⟩)
    case isFalse => exact Or.inl rfl

/-- The beginning of a long name may be written with anything behind an equals sign, and a letter
with anything right behind it. -/
theorem looseOption?_cases (c : CodePoint) (rest : Text) :
    (looseOption? (dash :: c :: rest) = none ∧ ¬ NamesHelp (dash :: c :: rest) ∧
        Flag.ofLetter? c = none) ∨
      (∃ flag attached, looseOption? (dash :: c :: rest) = some (.letter flag attached) ∧
        Flag.ofLetter? c = some flag) ∨
      ∃ attached, looseOption? (dash :: c :: rest) = some (.longHelp attached) ∧
        NamesHelp (dash :: c :: rest) := by
  rw [looseOption?]
  by_cases hc : c = dash
  · subst hc
    rw [if_pos ⟨rfl, rfl⟩]
    have hname : (splitAssignment (dash :: dash :: rest)).1 =
        (dash :: dash :: rest).takeWhile (· ≠ 0x3D) := rfl
    generalize splitAssignment (dash :: dash :: rest) = parts at hname ⊢
    obtain ⟨name, value⟩ := parts
    obtain rfl : name = (dash :: dash :: rest).takeWhile (· ≠ 0x3D) := hname
    dsimp only
    split
    case isTrue hbegins =>
      refine Or.inr (Or.inr ⟨value, rfl, rest, rfl, ?_⟩)
      by_contra hnot
      rw [Text.dropPrefix?_eq_none_iff.mpr hnot] at hbegins
      exact Bool.false_ne_true hbegins
    case isFalse hbegins =>
      refine Or.inl ⟨rfl, ?_, ofLetter?_dash⟩
      rintro ⟨_, -, hbeginning⟩
      refine hbegins (Option.isSome_iff_ne_none.mpr fun hnone => ?_)
      exact Text.dropPrefix?_eq_none_iff.mp hnone hbeginning
  · rw [if_neg fun h => hc h.2, if_pos rfl]
    cases hflag : Flag.ofLetter? c with
    | some flag => exact Or.inr (Or.inl ⟨flag, some rest, rfl, rfl⟩)
    | none =>
      refine Or.inl ⟨rfl, ?_, rfl⟩
      rintro ⟨_, heq, -⟩
      exact hc (List.cons.inj (List.cons.inj heq).2).1

theorem NamesFlag.looksLikeOption {text : Text} {flag : Flag} (h : NamesFlag text flag) :
    LooksLikeOption text := by
  obtain ⟨c, rest, rfl, hflag⟩ := h
  exact ⟨rfl, by simp, Or.inl ⟨flag, c, rest, rfl, hflag⟩⟩

theorem NamesHelp.looksLikeOption {text : Text} (h : NamesHelp text) : LooksLikeOption text := by
  obtain ⟨rest, rfl, hbegins⟩ := h
  exact ⟨rfl, by simp, Or.inr (Or.inl ⟨rest, rfl, hbegins⟩)⟩

/-- The divider would pass for the beginning of the long name, if it were looked at. -/
theorem looksLikeOption_divider : LooksLikeOption divider :=
  NamesHelp.looksLikeOption ⟨[], rfl, by decide⟩

theorem NamesFlag.unique {text : Text} {flag other : Flag} (h : NamesFlag text flag)
    (h' : NamesFlag text other) : flag = other := by
  obtain ⟨c, rest, rfl, hflag⟩ := h
  obtain ⟨_, _, heq, hother⟩ := h'
  obtain ⟨-, htail⟩ := List.cons.inj heq
  obtain ⟨rfl, -⟩ := List.cons.inj htail
  exact Option.some.inj (hflag.symm.trans hother)

theorem NamesHelp.not_namesFlag {text : Text} (h : NamesHelp text) (flag : Flag) :
    ¬ NamesFlag text flag := by
  obtain ⟨rest, rfl, -⟩ := h
  rintro ⟨c, _, heq, hflag⟩
  obtain ⟨-, htail⟩ := List.cons.inj heq
  obtain ⟨rfl, -⟩ := List.cons.inj htail
  rw [ofLetter?_dash] at hflag
  cases hflag

/-- The option for a file name to guess for, whose letter no other option has. -/
theorem namesFlag_guess_iff {text : Text} : NamesFlag text .guess ↔ Text.of "-N" <+: text := by
  have hof : Text.of "-N" = [dash, 0x4E] := by decide
  rw [hof]
  constructor
  · rintro ⟨c, rest, rfl, hflag⟩
    have hc : c = 0x4E := by grind [Flag.ofLetter?]
    exact ⟨rest, by rw [hc]; rfl⟩
  · rintro ⟨rest, rfl⟩
    exact ⟨0x4E, rest, rfl, by decide⟩

/-- **Every text is read as one of four things.** -/
theorem reads_textItem (text : Text) : Reads text (textItem text) := by
  rw [textItem]
  split
  case isTrue hplain =>
    refine .plain fun h => ?_
    rcases hplain with hhead | hdash
    · exact hhead h.1
    · exact h.2.1 hdash
  case isFalse hoption =>
    rw [not_or, not_not] at hoption
    obtain ⟨rest, rfl⟩ := List.head?_eq_some_iff.mp hoption.1
    obtain - | ⟨c, rest⟩ := rest
    · exact absurd rfl hoption.2
    rcases exactOption?_cases c rest with hexact | ⟨flag, attached, hexact, hflag⟩ |
      ⟨attached, hexact, hname⟩
    · rcases looseOption?_cases c rest with ⟨hloose, hhelp, hnone⟩ |
        ⟨flag, attached, hloose, hflag⟩ | ⟨attached, hloose, hhelp⟩
      · -- Neither a letter nor a beginning of the long name: only its shape is left to look at.
        have hflag : ∀ flag, ¬ NamesFlag (dash :: c :: rest) flag := by
          rintro flag ⟨_, _, heq, hsome⟩
          obtain ⟨rfl, -⟩ := List.cons.inj (List.cons.inj heq).2
          rw [hnone] at hsome
          cases hsome
        simp only [hexact, hloose, Option.or_none]
        split
        case isTrue hshape =>
          refine .plain fun h => ?_
          rcases h.2.2 with ⟨flag, h⟩ | h | ⟨hnumber, hspace⟩
          · exact hflag flag h
          · exact hhelp h
          · rw [hnumber] at hshape
            exact hshape.elim Bool.false_ne_true hspace
        case isFalse hshape =>
          rw [not_or, Bool.not_eq_true] at hshape
          exact .unknown ⟨hoption.1, hoption.2, Or.inr (Or.inr hshape)⟩ hflag
      · rw [hexact, hloose]
        exact .letter ⟨c, rest, rfl, hflag⟩ attached
      · rw [hexact, hloose]
        exact .longHelp hhelp attached
    · rw [hexact]
      exact .letter ⟨c, rest, rfl, hflag⟩ attached
    · rw [hexact]
      have hc : c = dash := by
        rw [List.takeWhile_cons_of_pos (by decide), List.takeWhile_cons] at hname
        split at hname
        · exact (List.cons.inj (List.cons.inj hname).2).1
        · cases hname
      subst hc
      exact .longHelp ⟨rest, rfl, hname ▸ List.prefix_refl _⟩ attached

theorem textItem_eq_plain_iff {text : Text} :
    textItem text = .plain (.text text) ↔ ¬ LooksLikeOption text := by
  have h := reads_textItem text
  generalize textItem text = it at h
  cases h with
  | plain h => exact iff_of_true rfl h
  | letter h => exact iff_of_false nofun (not_not_intro h.looksLikeOption)
  | longHelp h => exact iff_of_false nofun (not_not_intro h.looksLikeOption)
  | unknown h => exact iff_of_false nofun (not_not_intro h)

theorem exists_textItem_eq_letter_iff {text : Text} {flag : Flag} :
    (∃ attached, textItem text = .letter flag attached) ↔ NamesFlag text flag := by
  have h := reads_textItem text
  generalize textItem text = it at h
  cases h with
  | plain h => exact iff_of_false nofun fun hflag => h hflag.looksLikeOption
  | @letter other h attached =>
    refine ⟨?_, fun hflag => ⟨attached, by rw [hflag.unique h]⟩⟩
    rintro ⟨_, heq⟩
    obtain ⟨rfl, -⟩ := Item.letter.inj heq
    exact h
  | longHelp h => exact iff_of_false nofun (h.not_namesFlag flag)
  | unknown _ hflag => exact iff_of_false nofun (hflag flag)

/-- A negative number is plain, and an option with a space behind its letter is not. -/
example :
    textItem (Text.of "-1.5") = .plain (.text (Text.of "-1.5")) ∧
      textItem (Text.of "-h .py") = .letter .help (some (Text.of " .py")) := by
  decide +kernel

/-! ### All arguments -/

/-- A text that is no divider is an item by itself. -/
theorem items_text_cons {text : Text} {values : List Value} {rest : List Item}
    (hne : text ≠ divider) (hrest : items values = .ok rest) :
    items (.text text :: values) = .ok (textItem text :: rest) := by
  rw [items, if_neg fun heq => hne (Value.text.inj heq), hrest, item]

/-- What texts are of which the first is the divider. -/
def dividedItems : List Text → List Item
  | [] => []
  | _ :: texts => .divider :: texts.map fun text => .plain (.text text)

/-- **Texts can all be told**, each by itself up to the divider. -/
theorem items_texts (texts : List Text) :
    items (texts.map .text) =
      .ok ((texts.takeWhile (· ≠ divider)).map textItem ++
        dividedItems (texts.dropWhile (· ≠ divider))) := by
  induction texts with
  | nil => rfl
  | cons text texts ih =>
    by_cases hdivider : text = divider
    · subst hdivider
      simp [items, dividedItems, Function.comp_def]
    · rw [List.map_cons, items_text_cons hdivider ih]
      simp [hdivider]

variable {texts : List Text} {its : List Item}

theorem exists_eq_text_of_plain_mem (hits : items (texts.map .text) = .ok its) {value : Value}
    (hmem : .plain value ∈ its) : ∃ text, value = .text text := by
  rw [items_texts] at hits
  obtain rfl := Except.ok.inj hits
  rcases List.mem_append.mp hmem with hfront | hbehind
  · obtain ⟨text, -, htext⟩ := List.mem_map.mp hfront
    have h := reads_textItem text
    rw [htext] at h
    cases h with
    | plain => exact ⟨text, rfl⟩
  · revert hbehind
    cases texts.dropWhile (· ≠ divider) <;> simp [dividedItems]
    rintro text - rfl
    exact ⟨text, rfl⟩

/-- An option counts wherever it stands before the divider, and nowhere else. -/
theorem exists_letter_mem_iff (hits : items (texts.map .text) = .ok its) {flag : Flag} :
    (∃ attached, .letter flag attached ∈ its) ↔
      ∃ text ∈ texts.takeWhile (· ≠ divider), NamesFlag text flag := by
  rw [items_texts] at hits
  obtain rfl := Except.ok.inj hits
  have hbehind : ∀ attached,
      .letter flag attached ∉ dividedItems (texts.dropWhile (· ≠ divider)) := by
    intro attached
    cases texts.dropWhile (· ≠ divider) <;> simp [dividedItems]
  simp only [← exists_textItem_eq_letter_iff, List.mem_append, hbehind, or_false, List.mem_map]
  exact ⟨fun ⟨attached, text, hmem, h⟩ => ⟨text, hmem, attached, h⟩,
    fun ⟨text, hmem, attached, h⟩ => ⟨attached, text, hmem, h⟩⟩

/-! ### Taking the items in -/

/-- A value that a text may give: the text, or the empty list that is left where it is dropped. -/
inductive OfText : Value → Prop
  | text (text : Text) : OfText (.text text)
  | dropped : OfText (.list [])

theorem OfText.ne_null {value : Value} (h : OfText value) : value ≠ .null := by
  cases h <;> nofun

/-- Values that texts give, where any are given. -/
structure Arguments.OfTexts (arguments : Arguments) : Prop where
  format : arguments.format = .null ∨ OfText arguments.format
  lexer : arguments.lexer = .null ∨ OfText arguments.lexer
  guess : arguments.guess = .null ∨ OfText arguments.guess
  infile : arguments.infile = .null ∨ OfText arguments.infile

namespace Arguments

variable {arguments next : Arguments} {flag : Flag}

theorem eq_put_of_set {value : Value} (h : arguments.set flag value = .ok next) :
    next = arguments.put flag value := by
  rw [set] at h
  split at h
  · cases h
  · exact (Except.ok.inj h).symm

theorem exists_put_of_attach {attached : Text} (h : arguments.attach flag attached = .ok next) :
    ∃ value, OfText value ∧ next = arguments.put flag value := by
  rw [attach] at h
  split at h
  · exact ⟨.list [], .dropped, (Except.ok.inj h).symm⟩
  · exact ⟨.text attached, .text attached, eq_put_of_set h⟩

theorem ne_badValue_of_set {value : Value} {stop : Stop}
    (h : arguments.set flag value = .error stop) (fault : Value.Fault) :
    stop ≠ .badValue fault := by
  rw [set] at h
  split at h
  · obtain rfl := Except.error.inj h
    nofun
  · cases h

theorem ne_badValue_of_attach {attached : Text} {stop : Stop}
    (h : arguments.attach flag attached = .error stop) (fault : Value.Fault) :
    stop ≠ .badValue fault := by
  rw [attach] at h
  split at h
  · cases h
  · exact ne_badValue_of_set h fault

theorem OfTexts.put (h : arguments.OfTexts) (flag : Flag) {value : Value} (hvalue : OfText value) :
    (arguments.put flag value).OfTexts := by
  cases flag with
  | help => exact h
  | format => exact ⟨Or.inr hvalue, h.lexer, h.guess, h.infile⟩
  | lexer => exact ⟨h.format, Or.inr hvalue, h.guess, h.infile⟩
  | guess => exact ⟨h.format, h.lexer, Or.inr hvalue, h.infile⟩

theorem put_guess_ne_null_iff {value : Value} (hvalue : value ≠ .null) :
    (arguments.put flag value).guess ≠ .null ↔ arguments.guess ≠ .null ∨ flag = .guess := by
  cases flag <;> simp [put, hvalue]

end Arguments

namespace Intake

theorem exists_letter_mem_cons_iff {flag other : Flag} {attached : Option Text}
    {its : List Item} :
    (∃ attached', .letter other attached' ∈ Item.letter flag attached :: its) ↔
      flag = other ∨ ∃ attached', .letter other attached' ∈ its := by
  simp [exists_or, eq_comm]

theorem forall_plain_of_cons {p : Value → Prop} {it : Item} {rest : List Item}
    (h : ∀ value, .plain value ∈ it :: rest → p value) : ∀ value, .plain value ∈ rest → p value :=
  fun value hmem => h value (List.mem_cons_of_mem it hmem)

/-- Only an option changes the values that options have. -/
theorem plain_guess (intake : Intake) (value : Value) :
    (intake.plain value).arguments.guess = intake.arguments.guess := by
  rw [plain]
  split <;> rfl

theorem divider_arguments (intake : Intake) : intake.divider.arguments = intake.arguments := by
  rw [divider]
  split <;> rfl

/-- **A file name to guess for is given just if its option is**, wherever that stands. -/
theorem guess_ne_null_iff {intake last : Intake} {its : List Item}
    (h : intake.take its = .ok last) (hplain : ∀ value, .plain value ∈ its → value ≠ .null) :
    last.arguments.guess ≠ .null ↔
      intake.arguments.guess ≠ .null ∨ ∃ attached, .letter .guess attached ∈ its := by
  fun_induction take intake its with
  | case1 intake =>
    obtain rfl := Except.ok.inj h
    simp
  | case2 intake value rest ih => simpa [plain_guess] using ih h (forall_plain_of_cons hplain)
  | case3 intake rest ih => simpa [divider_arguments] using ih h (forall_plain_of_cons hplain)
  | case4 intake text rest ih => simpa using ih h (forall_plain_of_cons hplain)
  | case10 intake flag attached rest _ arguments hattach ih =>
    obtain ⟨value, hvalue, rfl⟩ := Arguments.exists_put_of_attach hattach
    refine (ih h (forall_plain_of_cons hplain)).trans ?_
    rw [withArguments, Arguments.put_guess_ne_null_iff hvalue.ne_null, exists_letter_mem_cons_iff,
      or_assoc]
  | case12 intake flag value rest _ arguments hset ih =>
    obtain rfl := Arguments.eq_put_of_set hset
    have hvalue : value ≠ .null := hplain value (by simp)
    refine (ih h (forall_plain_of_cons (forall_plain_of_cons hplain))).trans ?_
    rw [withArguments, Arguments.put_guess_ne_null_iff hvalue, exists_letter_mem_cons_iff,
      or_assoc]
    simp
  | case5 | case6 | case7 | case8 | case9 | case11 | case13 => cases h

theorem clusterStop_ne_badValue (valueFollows : Bool) (letters : Text) (fault : Value.Fault) :
    clusterStop valueFollows letters ≠ .badValue fault := by
  fun_induction clusterStop valueFollows letters <;> simp_all

/-- What is taken in of texts: values that texts give, and texts that are left over. -/
structure OfTexts (intake : Intake) : Prop where
  arguments : intake.arguments.OfTexts
  extras : ∀ value ∈ intake.extras, ∃ text, value = .text text

theorem ofTexts_initial : initial.OfTexts :=
  ⟨⟨Or.inl rfl, Or.inl rfl, Or.inl rfl, Or.inl rfl⟩, List.forall_mem_nil _⟩

theorem OfTexts.plain {intake : Intake} (h : intake.OfTexts) (text : Text) :
    (intake.plain (.text text)).OfTexts := by
  rw [Intake.plain]
  split
  · exact ⟨⟨h.arguments.format, h.arguments.lexer, h.arguments.guess, Or.inr (.text text)⟩,
      h.extras⟩
  · exact ⟨h.arguments, by simpa [or_imp, forall_and] using h.extras⟩

theorem OfTexts.divider {intake : Intake} (h : intake.OfTexts) : intake.divider.OfTexts := by
  rw [Intake.divider]
  split
  · exact h
  · exact ⟨h.arguments, h.extras⟩
  · exact ⟨h.arguments, by simpa [or_imp, forall_and] using h.extras⟩

/-- **Texts are taken in as texts**, and what stops them is not that a value has the wrong type. -/
theorem ofTexts_take {intake : Intake} {its : List Item} (h : intake.OfTexts)
    (hplain : ∀ value, .plain value ∈ its → ∃ text, value = .text text) :
    match intake.take its with
    | .ok last => last.OfTexts
    | .error stop => ∀ fault, stop ≠ .badValue fault := by
  fun_induction take intake its with
  | case1 intake => exact h
  | case2 intake value rest ih =>
    obtain ⟨text, rfl⟩ := hplain value List.mem_cons_self
    exact ih (h.plain text) (forall_plain_of_cons hplain)
  | case3 intake rest ih => exact ih h.divider (forall_plain_of_cons hplain)
  | case4 intake text rest ih =>
    exact ih ⟨h.arguments, by simpa [or_imp, forall_and] using h.extras⟩
      (forall_plain_of_cons hplain)
  | case5 | case6 | case7 | case13 => nofun
  | case8 => exact clusterStop_ne_badValue _ _
  | case9 intake flag attached rest _ stop hattach => exact Arguments.ne_badValue_of_attach hattach
  | case10 intake flag attached rest _ arguments hattach ih =>
    obtain ⟨value, hvalue, rfl⟩ := Arguments.exists_put_of_attach hattach
    exact ih ⟨h.arguments.put flag hvalue, h.extras⟩ (forall_plain_of_cons hplain)
  | case11 intake flag value rest _ stop hset => exact Arguments.ne_badValue_of_set hset
  | case12 intake flag value rest _ arguments hset ih =>
    obtain rfl := Arguments.eq_put_of_set hset
    obtain ⟨text, rfl⟩ := hplain value (by simp)
    exact ih ⟨h.arguments.put flag (.text text), h.extras⟩
      (forall_plain_of_cons (forall_plain_of_cons hplain))

theorem finish_eq_ok_iff {intake : Intake} {arguments : Arguments} :
    intake.finish = .ok arguments ↔ intake.extras = [] ∧ intake.arguments = arguments := by
  rw [finish]
  split
  case isTrue hextras => simp [hextras]
  case isFalse hextras => split <;> simp [hextras]

end Intake

namespace Arguments

/-- The values of a command line are those of its items, if all of them are taken in and nothing is
left over. -/
theorem parse_eq_ok_iff {values : List Value} {arguments : Arguments} :
    parse values = .ok arguments ↔ ∃ its intake, items values = .ok its ∧
      Intake.initial.take its = .ok intake ∧ intake.extras = [] ∧ intake.arguments = arguments := by
  rw [parse]
  cases hits : items values with
  | error fault => simp
  | ok its =>
    cases htake : Intake.initial.take its with
    | error stop => simp [htake]
    | ok intake => simp [htake, Intake.finish_eq_ok_iff]

theorem exists_mapM_eq_ok {α β ε : Type} {f : α → Except ε β} :
    ∀ {items : List α}, (∀ item ∈ items, ∃ found, f item = .ok found) →
      ∃ all, items.mapM f = .ok all
  | [], _ => ⟨[], rfl⟩
  | item :: items, h => by
    obtain ⟨⟨first, hfirst⟩, hitems⟩ := List.forall_mem_cons.mp h
    obtain ⟨all, hall⟩ := exists_mapM_eq_ok hitems
    exact ⟨first :: all, by rw [List.mapM_cons, hfirst, hall]; rfl⟩

/-- Texts that are left over are put together. -/
theorem exists_joined (separator : Text) {values : List Value}
    (h : ∀ value ∈ values, ∃ text, value = .text text) :
    ∃ joined, Value.joined separator values = .ok joined := by
  rw [Value.joined]
  refine (exists_mapM_eq_ok fun part hpart => ?_).elim fun all hall => ⟨_, by rw [hall]; rfl⟩
  obtain ⟨value, index⟩ := part
  obtain ⟨text, rfl⟩ := h value (List.fst_mem_of_mem_zipIdx hpart)
  exact ⟨text, rfl⟩

/-- **A command line of texts** gives values that texts give, and what stops it is not that a value
has the wrong type. -/
theorem ofTexts_parse (texts : List Text) :
    match parse (texts.map .text) with
    | .ok arguments => arguments.OfTexts
    | .error stop => ∀ fault, stop ≠ .badValue fault := by
  obtain ⟨its, hits⟩ : ∃ its, items (texts.map .text) = .ok its := ⟨_, items_texts texts⟩
  have htake := Intake.ofTexts_take Intake.ofTexts_initial
    fun value => exists_eq_text_of_plain_mem hits
  cases hlast : Intake.initial.take its with
  | error stop =>
    rw [hlast] at htake
    simp only [parse, hits, hlast]
    exact htake
  | ok last =>
    rw [hlast] at htake
    simp only [parse, hits, hlast, Intake.finish]
    by_cases hextras : last.extras = []
    · rw [if_pos hextras]
      exact htake.arguments
    · obtain ⟨joined, hjoined⟩ := exists_joined [0x20] htake.extras
      rw [if_neg hextras, hjoined]
      nofun

/-- **A file name to guess for is given just if an argument before the divider names its option**,
whatever else the command line holds. -/
theorem guess_ne_null_iff {arguments : Arguments} (h : parse (texts.map .text) = .ok arguments) :
    arguments.guess ≠ .null ↔
      ∃ text ∈ texts.takeWhile (· ≠ divider), NamesFlag text .guess := by
  obtain ⟨its, intake, hits, htake, -, rfl⟩ := parse_eq_ok_iff.mp h
  refine (Intake.guess_ne_null_iff htake fun value hmem => ?_).trans ?_
  · obtain ⟨text, rfl⟩ := exists_eq_text_of_plain_mem hits hmem
    nofun
  · rw [exists_letter_mem_iff hits]
    simp [Intake.initial, none]

end Arguments

end LexBridge.Tool
