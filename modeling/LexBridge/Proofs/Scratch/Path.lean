import LexBridge.Proofs.Disk.Naming
import LexBridge.Proofs.Text.Cutting
import LexBridge.Scratch.Basic

/-!
# Where scratch files go

The name of a scratch file ends in an identifier. Whatever stands before it, folders and double dots
included, is gone when the path has been followed to its end, and the bytes of the identifier still
stand at the end of the name that is reached. So files with different identifiers stand at different
locations, whichever folders and beginnings of names are configured for them, and even though texts
with escapes may write the same name in two ways.

## Main definitions

* `Scratch.IsIdentifier`: the texts that identifiers are.

## Main results

* `Scratch.IsIdentifier.suffix_of_path`: the path of a scratch file ends in its identifier.
* `Scratch.IsIdentifier.exists_of_names`: so does the name that this path leads to.
* `Scratch.IsIdentifier.eq_of_names`: no two identifiers lead to the same location.
-/

namespace LexBridge

/-! ### The end of a path -/

/-- A path as text ends in its last part. -/
theorem Path.suffix_toText (root last : Text) (parts : List Text) :
    last <:+ (⟨root, parts ++ [last]⟩ : Path).toText := by
  rw [Path.toText]
  split
  · rename_i hparts
    exact absurd hparts (List.append_ne_nil_of_right_ne_nil _ (List.cons_ne_nil _ _))
  · exact (Text.suffix_joinWith_append [0x2F] last parts).trans (List.suffix_append root _)

namespace Disk

variable {disk : Disk} {here : Location} {found : Entry}

/-- A walk ends by looking up the last part. -/
theorem exists_lookUp_of_walk {last : FileName} :
    ∀ {parts : List FileName} {start : Location},
      disk.walk start (parts ++ [last]) = .ok (here, found) →
        ∃ folder, disk.lookUp folder last = .ok (here, found)
  | [], start, h => ⟨start, h⟩
  | part :: parts, start, h => by
    rw [List.cons_append, walk] at h
    · split at h
      · exact exists_lookUp_of_walk h
      · cases h
    · simp

/-- A last part that is a name leads to the location of that name. -/
theorem eq_append_of_lookUp {folder : Location} {last : FileName} (hlast : 2 < last.length)
    (h : disk.lookUp folder last = .ok (here, found)) : here = folder ++ [last] := by
  have hname : ¬ (last = [] ∨ last = [0x2E]) ∧ last ≠ [0x2E, 0x2E] := by
    refine ⟨?_, ?_⟩
    · rintro (rfl | rfl) <;> simp at hlast
    · rintro rfl
      simp at hlast
  rw [lookUp, if_neg hname.1, if_neg hname.2] at h
  split at h
  · cases h
  split at h
  · cases h
    rfl
  split at h <;> cases h <;> rfl

end Disk

/-! ### Identifiers -/

namespace Scratch

/-- An identifier has thirty-six characters, with no slash and no surrogate among them. -/
structure IsIdentifier (identifier : Text) : Prop where
  length_eq : identifier.length = 36
  slash_notMem : 0x2F ∉ identifier
  writable : Utf8.Writable identifier

namespace IsIdentifier

variable {identifier : Text} (h : IsIdentifier identifier)
include h

theorem two_lt_length_of_suffix {name : Text} (hname : identifier <:+ name) : 2 < name.length := by
  have hlength := h.length_eq
  have hle := hname.length_le
  omega

/-- A path that is read from a text with an identifier at its end has it at its end too. -/
theorem exists_parts_ofText (text : Text) :
    ∃ parts last, (Path.ofText (text ++ identifier)).parts = parts ++ [last] ∧
      identifier <:+ last := by
  obtain ⟨pieces, last, hsplit, hlast⟩ := Text.exists_splitOn_append h.slash_notMem text
  have hlength := h.two_lt_length_of_suffix hlast
  have hkept : last ≠ [] ∧ last ≠ [0x2E] := by
    constructor <;> rintro rfl <;> simp at hlength
  refine ⟨pieces.filter fun part => part ≠ [] ∧ part ≠ [0x2E], last, ?_, hlast⟩
  simp only [Path.ofText, hsplit, List.filter_append, List.filter_singleton]
  simp [hkept]

/-- **The path of a scratch file ends in its identifier.** -/
theorem suffix_of_path {config : Config} {disk : Disk} {path : Text}
    (hpath : Scratch.path config disk identifier = .ok path) : identifier <:+ path := by
  obtain ⟨parts, last, hparts, hlast⟩ := h.exists_parts_ofText config.tempPrefix.display
  unfold Scratch.path at hpath
  cases hdirectory : directory config disk with
  | error failure => simp [hdirectory, Except.map] at hpath
  | ok directory =>
    obtain rfl : (directory.join (.ofText (config.tempPrefix.display ++ identifier))).toText =
        path := by simpa [hdirectory, Except.map] using hpath
    obtain ⟨root, before, hjoin⟩ : ∃ root before,
        directory.join (.ofText (config.tempPrefix.display ++ identifier)) =
          ⟨root, before ++ [last]⟩ := by
      rw [Path.join]
      split
      · exact ⟨directory.root, directory.parts ++ parts, by rw [hparts, List.append_assoc]⟩
      · exact ⟨_, parts, by rw [← hparts]⟩
    rw [hjoin]
    exact hlast.trans (Path.suffix_toText root last before)

/-- The bytes of a text that ends in an identifier end in those of the identifier. -/
theorem suffix_encodeName {name : Text} (hname : identifier <:+ name) :
    Utf8.encode identifier <:+ Utf8.encodeName name := by
  obtain ⟨front, rfl⟩ := hname
  rw [Utf8.encodeName_append, Utf8.encodeName_of_writable h.writable]
  exact List.suffix_append _ _

theorem two_lt_length_of_encode_suffix {name : FileName}
    (hname : Utf8.encode identifier <:+ name) : 2 < name.length := by
  have hcharacters := Utf8.length_le_length_encode identifier
  have hlength := h.length_eq
  have hle := hname.length_le
  omega

/-- **A path that ends in an identifier leads to a name whose bytes end in those of the
identifier.** -/
theorem exists_of_names {disk : Disk} {path : Text} {here : Location}
    (hpath : identifier <:+ path) (hnames : disk.Names path here) :
    ∃ folder name, here = folder ++ [name] ∧ Utf8.encode identifier <:+ name := by
  obtain ⟨text, rfl⟩ := hpath
  obtain ⟨pieces, last, hsplit, hlast⟩ := Text.exists_splitOn_append h.slash_notMem text
  have hname : Utf8.encode identifier <:+ Utf8.encodeName last := h.suffix_encodeName hlast
  unfold Disk.Names Disk.find at hnames
  split at hnames
  · cases hnames
  split at hnames
  · cases hnames
  split at hnames
  · cases hnames
  split at hnames
  · cases hnames
  rw [hsplit, List.map_append, List.map_singleton] at hnames
  obtain ⟨folder, hlookUp⟩ := Disk.exists_lookUp_of_walk hnames
  exact ⟨folder, Utf8.encodeName last,
    Disk.eq_append_of_lookUp (h.two_lt_length_of_encode_suffix hname) hlookUp, hname⟩

/-- **No two identifiers lead to the same location.** -/
theorem eq_of_names {other : Text} (hother : IsIdentifier other) {disk : Disk}
    {path otherPath : Text} {here : Location} (hpath : identifier <:+ path)
    (hotherPath : other <:+ otherPath) (hnames : disk.Names path here)
    (hotherNames : disk.Names otherPath here) : identifier = other := by
  obtain ⟨folder, name, rfl, hname⟩ := h.exists_of_names hpath hnames
  obtain ⟨otherFolder, otherName, heq, hotherName⟩ := hother.exists_of_names hotherPath hotherNames
  obtain ⟨-, hlast⟩ := List.append_inj' heq rfl
  obtain rfl := (List.cons.inj hlast).1
  have hlength : identifier.length = other.length := h.length_eq.trans hother.length_eq.symm
  rcases List.suffix_or_suffix_of_suffix hname hotherName with hends | hends
  · exact Utf8.eq_of_encode_isSuffix h.writable hother.writable hlength hends
  · exact (Utf8.eq_of_encode_isSuffix hother.writable h.writable hlength.symm hends).symm

end IsIdentifier

end Scratch

end LexBridge
