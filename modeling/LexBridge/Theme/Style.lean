import LexBridge.Kind.Selector
import LexBridge.Theme.Table

/-!
# Themes from highlighting styles

A highlighting style says how each token type looks, under the labels that kinds have too. It makes
a table: the kinds are gone through in their order, and a selector that several kinds share goes to
the first of them that the style gives any look. Kinds whose selector is taken are not looked up.

## Main definitions

* `Style`, `Face`: what a style says of a token type.
* `Scope.ofFace`: the display style of a face.
* `Style.visit`, `Style.entries`: the step for one kind, and the entries of a whole style.
* `Theme.Table.ofStyle`: the table of a style.
-/

namespace LexBridge

/-- How a token type looks. A colour is written without its leading number sign, and an empty one
is none. -/
structure Face where
  colour : Text
  background : Text
  bold : Bool
  italic : Bool
  underline : Bool
  deriving DecidableEq

/-- The face that says nothing. -/
def Face.plain : Face := ⟨[], [], false, false, false⟩

/-- A style gives a face to each token type, by its label. -/
abbrev Style := Text → Face

/-- A colour with its number sign. -/
def Face.signed (colour : Text) : Option Value :=
  if colour = [] then none else some (.text (0x23 :: colour))

/-- The display style of a face. -/
def Scope.ofFace (face : Face) : Scope :=
  { foreground := Face.signed face.colour
    background := Face.signed face.background
    fontStyles :=
      (if face.bold then [.text (Text.of "bold")] else []) ++
        (if face.italic then [.text (Text.of "italic")] else []) ++
        (if face.underline then [.text (Text.of "underline")] else []) }

namespace Style

/-- The entries made so far, and the labels that were looked up for them. -/
structure Entries where
  scopes : List (Text × Scope)
  queried : List Text

/-- Gives a kind its turn. It gets the entry of its selector if no kind before it has got that one
and its face says anything. -/
def visit (style : Style) (entries : Entries) (kind : Kind) : Entries :=
  match kind.selector? with
  | none => entries
  | some selector =>
    if (entries.scopes.lookup selector).isSome then entries
    else
      let scope := Scope.ofFace (style kind.label)
      { scopes := if scope.isEmpty then entries.scopes else entries.scopes ++ [(selector, scope)]
        queried := entries.queried ++ [kind.label] }

/-- The entries of a style, in the order of the kinds that get them. -/
def entries (style : Style) : Entries := Kind.all.foldl style.visit ⟨[], []⟩

end Style

/-- The table of a style. -/
def Theme.Table.ofStyle (name : Value) (style : Style) : Theme.Table := ⟨name, style.entries.scopes⟩

end LexBridge
