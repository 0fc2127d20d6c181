import LexBridge.Disk.Basic
import LexBridge.Proofs.Text.Utf8

/-!
# Where paths lead

Where a path leads depends on the folders alone. Files decide only what stands at the location that
it leads to, and so what is done to files never leads a path astray.

## Main definitions

* `Disk.entry`: what stands at a location that is no folder.
* `Disk.Refusal.IsMet`: the refusals that are met on the way along a path.

## Main results

* `Disk.find_of_folders_eq`: a path leads to the same location on disks with the same folders.
* `Disk.find_eq_unencodable_iff`, `Disk.find_eq_embeddedNul_iff`: which paths are refused for what
  is written in them.
* `Disk.create_eq_ok_iff`: under which paths a file can be made.
-/

namespace LexBridge.Disk

/-! ### Following paths -/

/-- What stands at a location that is no folder. -/
def entry (disk : Disk) (here : Location) : Entry :=
  match disk.file? here with
  | some bytes => .file bytes
  | none => .vacant

theorem entry_eq_file_iff {disk : Disk} {here : Location} {bytes : List UInt8} :
    disk.entry here = .file bytes ↔ disk.file? here = some bytes := by
  rw [entry]
  cases disk.file? here <;> simp

theorem entry_eq_vacant_iff {disk : Disk} {here : Location} :
    disk.entry here = .vacant ↔ disk.file? here = none := by
  rw [entry]
  cases disk.file? here <;> simp

section Congr

variable {a b : Disk} (hfolders : a.folders = b.folders) {start here : Location}
include hfolders

theorem hasFolder_of_folders_eq (here : Location) : a.hasFolder here = b.hasFolder here := by
  rw [hasFolder, hasFolder, hfolders]

theorem descend_of_folders_eq {part : FileName} (h : a.descend start part = .ok here) :
    b.descend start part = .ok here := by
  simp only [descend, hasFolder_of_folders_eq hfolders] at h ⊢
  split at h
  · rwa [if_pos ‹_›]
  rw [if_neg ‹_›]
  split at h
  · rwa [if_pos ‹_›]
  rw [if_neg ‹_›]
  split at h
  · cases h
  rw [if_neg ‹_›]
  split at h
  · rwa [if_pos ‹_›]
  · split at h <;> cases h

theorem lookUp_of_folders_eq {part : FileName} {found : Entry}
    (h : a.lookUp start part = .ok (here, found)) :
    b.lookUp start part = .ok (here, if found = .folder then .folder else b.entry here) := by
  simp only [lookUp, hasFolder_of_folders_eq hfolders] at h ⊢
  split at h
  · cases h
    rw [if_pos ‹_›, if_pos rfl]
  rw [if_neg ‹_›]
  split at h
  · cases h
    rw [if_pos ‹_›, if_pos rfl]
  rw [if_neg ‹_›]
  split at h
  · cases h
  rw [if_neg ‹_›]
  split at h
  · cases h
    rw [if_pos ‹_›, if_pos rfl]
  rw [if_neg ‹_›]
  have hhere : here = start ++ [part] ∧ found ≠ .folder := by
    split at h <;> cases h <;> exact ⟨rfl, nofun⟩
  rw [hhere.1, if_neg hhere.2, entry]
  cases b.file? (start ++ [part]) <;> rfl

theorem walk_of_folders_eq {found : Entry} :
    ∀ {parts : List FileName} {start : Location}, a.walk start parts = .ok (here, found) →
      b.walk start parts = .ok (here, if found = .folder then .folder else b.entry here)
  | [], start, h => by
    cases h
    rfl
  | [part], start, h => lookUp_of_folders_eq hfolders h
  | part :: next :: parts, start, h => by
    rw [walk] at h ⊢
    · split at h
      · rename_i below hbelow
        rw [descend_of_folders_eq hfolders hbelow]
        exact walk_of_folders_eq h
      · cases h
    · simp
    · simp

/-- **A path leads to the same location on disks with the same folders.** What stands there is a
folder on both, or what the files of each disk say. -/
theorem find_of_folders_eq {path : Text} {found : Entry} (h : a.find path = .ok (here, found)) :
    b.find path = .ok (here, if found = .folder then .folder else b.entry here) := by
  unfold find at h ⊢
  split at h
  · cases h
  split at h
  · cases h
  rw [if_neg ‹_›]
  split at h
  · cases h
  rw [if_neg ‹_›]
  split at h
  · cases h
  rw [if_neg ‹_›]
  exact walk_of_folders_eq hfolders h

end Congr

/-- A path that leads to no folder leads to what the files say. -/
theorem entry_eq_of_find {disk : Disk} {path : Text} {here : Location} {found : Entry}
    (h : disk.find path = .ok (here, found)) (hfound : found ≠ .folder) :
    disk.entry here = found := by
  have hsame := find_of_folders_eq (b := disk) rfl h
  rw [if_neg hfound, h] at hsame
  exact (congrArg Prod.snd (Except.ok.inj hsame)).symm

/-! ### Refusals -/

section Refusals

variable {disk : Disk} {path : Text} {refusal : Refusal}

/-- What is met on the way along a path: a name that is too long, something that is no folder, or
nothing at all. -/
def Refusal.IsMet (refusal : Refusal) : Prop :=
  refusal = .nameTooLong ∨ refusal = .notFolder ∨ refusal = .missing

theorem isMet_of_descend {here : Location} {part : FileName}
    (h : disk.descend here part = .error refusal) : refusal.IsMet := by
  unfold descend at h
  split at h
  · cases h
  split at h
  · cases h
  split at h
  · exact Or.inl (Except.error.inj h).symm
  split at h
  · cases h
  split at h
  · exact Or.inr (Or.inl (Except.error.inj h).symm)
  · exact Or.inr (Or.inr (Except.error.inj h).symm)

theorem isMet_of_lookUp {here : Location} {part : FileName}
    (h : disk.lookUp here part = .error refusal) : refusal.IsMet := by
  unfold lookUp at h
  split at h
  · cases h
  split at h
  · cases h
  split at h
  · exact Or.inl (Except.error.inj h).symm
  split at h
  · cases h
  split at h <;> cases h

theorem isMet_of_walk :
    ∀ {parts : List FileName} {here : Location}, disk.walk here parts = .error refusal →
      refusal.IsMet
  | [], _, h => by cases h
  | [part], _, h => isMet_of_lookUp h
  | part :: next :: parts, here, h => by
    rw [walk] at h
    · split at h
      · exact isMet_of_walk h
      · rename_i met hdescend
        obtain rfl := Except.error.inj h
        exact isMet_of_descend hdescend
    · simp

/-- A path that is refused for nothing that is written in it is refused on the way. -/
theorem isMet_of_find (hnamable : Utf8.Namable path) (hnul : 0 ∉ path)
    (h : disk.find path = .error refusal) : refusal.IsMet := by
  simp only [find, Utf8.encodeName?_of_namable hnamable, if_neg hnul] at h
  split at h
  · exact Or.inr (Or.inr (Except.error.inj h).symm)
  split at h
  · exact Or.inl (Except.error.inj h).symm
  · exact isMet_of_walk h

theorem find_of_mem (hnamable : Utf8.Namable path) (hnul : 0 ∈ path) :
    disk.find path = .error .embeddedNul := by
  simp only [find, Utf8.encodeName?_of_namable hnamable, if_pos hnul]

/-- A path is refused for its surrogates just if it cannot be encoded. -/
theorem find_eq_unencodable_iff {run : Utf8.SurrogateRun} :
    disk.find path = .error (.unencodable run) ↔ Utf8.encodeName? path = .error run := by
  cases hencode : Utf8.encodeName? path with
  | error other => simp [find, hencode]
  | ok bytes =>
    have hnamable : Utf8.Namable path := (Utf8.encodeName?_eq_ok_iff.mp hencode).1
    refine iff_of_false (fun h => ?_) nofun
    by_cases hnul : 0 ∈ path
    · cases (find_of_mem hnamable hnul).symm.trans h
    · rcases isMet_of_find hnamable hnul h with h | h | h <;> cases h

/-- A path is refused because of a NUL just if it can be encoded and there is one in it. -/
theorem find_eq_embeddedNul_iff :
    disk.find path = .error .embeddedNul ↔ Utf8.Namable path ∧ 0 ∈ path := by
  refine ⟨fun h => ?_, fun h => find_of_mem h.1 h.2⟩
  cases hencode : Utf8.encodeName? path with
  | error run => cases (find_eq_unencodable_iff.mpr hencode).symm.trans h
  | ok bytes =>
    have hnamable : Utf8.Namable path := (Utf8.encodeName?_eq_ok_iff.mp hencode).1
    refine ⟨hnamable, ?_⟩
    by_contra hnul
    rcases isMet_of_find hnamable hnul h with h | h | h <;> cases h

/-- Where no file can be made, it is the path that is refused, unless something is there already. -/
theorem create_eq_error_iff (hpresent : refusal ≠ .present) :
    disk.create path = .error refusal ↔ disk.find path = .error refusal := by
  unfold create
  split
  · rename_i other hfind
    rw [hfind, Except.error.injEq, Except.error.injEq]
  · rename_i hfind
    rw [hfind]
    exact iff_of_false nofun nofun
  · rename_i hfind
    rw [hfind]
    refine iff_of_false (fun h => hpresent ?_) nofun
    exact (Except.error.inj h).symm

/-- A path that cannot be encoded is refused for that when its file is to be deleted. -/
theorem delete_eq_unencodable_iff {run : Utf8.SurrogateRun} :
    disk.delete path = .error (.unencodable run) ↔ Utf8.encodeName? path = .error run := by
  have hfind : disk.find path = .error (.unencodable run) ↔ Utf8.encodeName? path = .error run :=
    find_eq_unencodable_iff
  rw [← hfind]
  unfold delete
  split
  · rename_i other hother
    rw [hother, Except.error.injEq, Except.error.injEq]
  -- nothing else that a path leads to is a refusal for its surrogates
  all_goals
    rename_i hother
    rw [hother]
    exact iff_of_false nofun nofun

end Refusals

/-! ### Making files -/

variable {disk opened : Disk} {path : Text}

theorem create_eq_ok_iff :
    disk.create path = .ok opened ↔ ∃ here, disk.find path = .ok (here, .vacant) ∧
      opened = { disk with files := disk.files ++ [(here, [])] } := by
  unfold create
  constructor
  · intro h
    split at h
    · cases h
    · rename_i here hfind
      exact ⟨here, hfind, (Except.ok.inj h).symm⟩
    · cases h
  · rintro ⟨here, hfind, rfl⟩
    rw [hfind]

/-- A file can only be made under a path that says something. -/
theorem ne_nil_of_create (h : disk.create path = .ok opened) : path ≠ [] := by
  rintro rfl
  obtain ⟨here, hfind, -⟩ := create_eq_ok_iff.mp h
  cases hfind

end LexBridge.Disk
