import LexBridge.Theme.Scope

/-!
# Themes from tables

A theme that holds a style for some scope selectors. A selector without an entry of its own gets
the style of the nearest selector above it, where `a.b` is above `a.b.c`: so a table that styles
`string` styles `string.quoted.double` as well.

## Main definitions

* `Theme.Table`: a named table of styles.
* `Theme.ancestors`: what a selector begins with, cut before one of its dots.
* `Theme.Table.resolve`, `Theme.Table.resolveValue`: the style of a selector.
* `Theme.Table.ofMappings`: a table from loosely typed mappings.
-/

namespace LexBridge.Theme

/-- A table of styles by selector, with a name of any type. The first entry of a selector
counts. -/
structure Table where
  name : Value
  scopes : List (Text × Scope)

/-- The beginnings of a selector that end just before one of its dots, shortest first. -/
def ancestors : Text → List Text
  | [] => []
  | c :: rest =>
    let longer := (ancestors rest).map (c :: ·)
    if c = 0x2E then [] :: longer else longer

/-- What a selector is looked up under, longest first: itself and its ancestors, of which the empty
one is left out. -/
def candidates (selector : Text) : List Text :=
  (selector :: (ancestors selector).reverse).filter fun candidate => candidate ≠ []

namespace Table

/-- The entry of exactly this selector. -/
def entry? (table : Table) (selector : Text) : Option Scope := table.scopes.lookup selector

/-- The style of a selector: the entry of the first candidate that has one. -/
def resolve (table : Table) : Theme := fun selector => (candidates selector).findSome? table.entry?

/-- The table without entries. -/
def empty : Table := ⟨.text [], []⟩

/-- The table of an object of mappings, or the first thing that is wrong with them. -/
def ofMappings (name mappings : Value) : Except Value.Fault Table := do
  let scopes ← (← mappings.fields).mapM fun (selector, mapping) =>
    (Scope.ofMapping mapping).map fun scope => (selector, scope)
  return ⟨name, scopes⟩

/-- The style of a selector of any type. One that does not count as true has none, one without
parts cannot be cut at its dots, and one with parts cannot even be looked up. -/
def resolveValue (table : Table) : Value → Except Value.Fault (Option Scope)
  | .text selector => .ok (table.resolve selector)
  | selector =>
    if !selector.isTruthy then .ok none
    else if selector.isAtom then .error (.lacks selector.typeName (Text.of "rpartition"))
    else .error (.unhashable selector.typeName)

/-- A table in a message. -/
def describe (table : Table) : Text :=
  Text.of "DictTheme(" ++ table.name.render ++ Text.of ", " ++
    Text.ofNat table.scopes.length ++ Text.of " scopes)"

end Table

end LexBridge.Theme
