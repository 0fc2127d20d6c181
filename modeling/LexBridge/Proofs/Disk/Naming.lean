import LexBridge.Proofs.Disk.Basic

/-!
# Files come and go

A path that leads to no folder *names* a location. Which location that is depends on the folders
alone, so a path goes on naming the same one while files are made and deleted, and each operation
on files is one on the file at the location that is named: making a file puts it behind the others,
and removing takes it out and nothing else. A file that is made and removed again leaves the disk
just as it was.

## Main definitions

* `Disk.Names`, `Disk.place`: a path names a location, and where a path leads.
* `Disk.adding`, `Disk.without`: a disk with one more file, and without the file at a location.
* `Disk.bare`: a disk without files.

## Main results

* `Disk.create_eq_ok_iff_names`: when a file can be made, and where it is then.
* `Disk.Names.write_adding`, `Disk.Names.read_eq`, `Disk.Names.delete_eq`, `Disk.Names.remove_eq`:
  the operations at a location that is named.
* `Disk.read_write_of_create`: a new file holds what is written to it.
* `Disk.without_adding`: a file that is made and removed again leaves nothing behind.
* `Disk.remove_of_create_eq_error`: where no file can be made, none is removed.
-/

namespace LexBridge.Disk

/-! ### Locations with and without files -/

/-- A disk with one more file. -/
def adding (disk : Disk) (here : Location) (bytes : List UInt8) : Disk :=
  { disk with files := disk.files ++ [(here, bytes)] }

/-- A disk without the file at a location, if there is one. -/
def without (disk : Disk) (here : Location) : Disk :=
  { disk with files := disk.files.filter fun file => file.1 ≠ here }

variable {disk : Disk} {here : Location} {path : Text}

theorem file?_eq_none_iff : disk.file? here = none ↔ ∀ file ∈ disk.files, file.1 ≠ here := by
  rw [file?, List.lookup_eq_none_iff]
  exact forall₂_congr fun file _ => bne_iff_ne.trans ne_comm

theorem file?_adding (h : disk.file? here = none) (bytes : List UInt8) :
    (disk.adding here bytes).file? here = some bytes := by
  rw [file?] at h
  simp [file?, adding, List.lookup_append, h]

/-- Where there is no file, none is taken away. -/
theorem without_of_file?_eq_none (h : disk.file? here = none) : disk.without here = disk := by
  have hfiles : disk.files.filter (fun file => file.1 ≠ here) = disk.files :=
    List.filter_eq_self.mpr fun file hfile => by simpa using file?_eq_none_iff.mp h file hfile
  rw [without, hfiles]

/-- **A file that is made and removed again leaves the disk as it was.** -/
theorem without_adding (h : disk.file? here = none) (bytes : List UInt8) :
    (disk.adding here bytes).without here = disk := by
  have hsame : disk.files.filter (fun file => file.1 ≠ here) = disk.files :=
    congrArg files (without_of_file?_eq_none h)
  have hnew : [(here, bytes)].filter (fun file => file.1 ≠ here) = [] := by simp
  simp only [without, adding, List.filter_append, hsame, hnew, List.append_nil]

/-! ### Paths that name a location -/

/-- A path names a location: it leads there, and what stands there is no folder. -/
def Names (disk : Disk) (path : Text) (here : Location) : Prop :=
  disk.find path = .ok (here, disk.entry here)

theorem names_of_find {found : Entry} (h : disk.find path = .ok (here, found))
    (hfound : found ≠ .folder) : disk.Names path here := by
  rw [Names, h, entry_eq_of_find h hfound]

theorem entry_ne_folder (disk : Disk) (here : Location) : disk.entry here ≠ .folder := by
  rw [entry]
  cases disk.file? here <;> simp

/-- The location that a path leads to, and the working directory for a path that leads nowhere. -/
def place (disk : Disk) (path : Text) : Location :=
  ((disk.find path).toOption.map Prod.fst).getD []

/-- A file can be made just under a path that names a location where there is none. -/
theorem create_eq_ok_iff_names {opened : Disk} :
    disk.create path = .ok opened ↔
      ∃ here, disk.Names path here ∧ disk.file? here = none ∧ opened = disk.adding here [] := by
  rw [create_eq_ok_iff]
  constructor
  · rintro ⟨here, hfind, rfl⟩
    exact ⟨here, names_of_find hfind nofun, entry_eq_vacant_iff.mp (entry_eq_of_find hfind nofun),
      rfl⟩
  · rintro ⟨here, hnames, hnone, rfl⟩
    rw [Names, entry_eq_vacant_iff.mpr hnone] at hnames
    exact ⟨here, hnames, rfl⟩

namespace Names

variable (h : disk.Names path here)
include h

/-- Files do not change what a path names. -/
theorem of_folders_eq {other : Disk} (hfolders : disk.folders = other.folders) :
    other.Names path here := by
  rw [Names, find_of_folders_eq hfolders h, if_neg (disk.entry_ne_folder here)]

/-- A path names one location at most. -/
theorem unique {other : Location} (h' : disk.Names path other) : here = other :=
  congrArg Prod.fst (Except.ok.inj (h.symm.trans h'))

theorem place_eq : disk.place path = here := by
  rw [place, h]
  rfl

theorem find_of_file?_eq_some {bytes : List UInt8} (hfile : disk.file? here = some bytes) :
    disk.find path = .ok (here, .file bytes) := by
  rw [h, entry_eq_file_iff.mpr hfile]

theorem find_of_file?_eq_none (hnone : disk.file? here = none) :
    disk.find path = .ok (here, .vacant) := by
  rw [h, entry_eq_vacant_iff.mpr hnone]

/-- Reading gives the bytes of the file at the location, if there is one. -/
theorem read_eq : disk.read path = (disk.file? here).elim (.error .missing) .ok := by
  cases hfile : disk.file? here with
  | none => rw [read, h.find_of_file?_eq_none hfile, Option.elim_none]
  | some bytes => rw [read, h.find_of_file?_eq_some hfile, Option.elim_some]

/-- Deleting takes the file at the location away, if there is one. -/
theorem delete_eq :
    disk.delete path = if (disk.file? here).isSome then .ok (disk.without here)
      else .error .missing := by
  cases hfile : disk.file? here with
  | none => rw [delete, h.find_of_file?_eq_none hfile, if_neg (by simp)]
  | some bytes =>
    rw [delete, h.find_of_file?_eq_some hfile]
    rfl

/-- **Removing takes the file at the location away, and nothing else.** -/
theorem remove_eq : disk.remove path = disk.without here := by
  rw [remove, h.delete_eq]
  cases hfile : disk.file? here with
  | none => exact (without_of_file?_eq_none hfile).symm
  | some bytes => rfl

/-- A file that has just been made may be given its bytes at once. -/
theorem write_adding (hnone : disk.file? here = none) (old bytes : List UInt8) :
    (disk.adding here old).write path bytes = disk.adding here bytes := by
  have hnames : (disk.adding here old).Names path here := h.of_folders_eq rfl
  have hkept : disk.files.map (fun file => (file.1, if file.1 = here then bytes else file.2)) =
      disk.files := by
    refine (List.map_congr_left fun file hfile => ?_).trans (List.map_id _)
    rw [if_neg (file?_eq_none_iff.mp hnone file hfile), id]
  rw [write, hnames.find_of_file?_eq_some (file?_adding hnone old)]
  simp only [adding, List.map_append, hkept, List.map_singleton, if_true]

end Names

/-- **A new file holds what is written to it.** -/
theorem read_write_of_create {opened : Disk} (h : disk.create path = .ok opened)
    (bytes : List UInt8) : (opened.write path bytes).read path = .ok bytes := by
  obtain ⟨here, hnames, hnone, rfl⟩ := create_eq_ok_iff_names.mp h
  have hwritten : (disk.adding here bytes).Names path here := hnames.of_folders_eq rfl
  rw [hnames.write_adding hnone, hwritten.read_eq, file?_adding hnone, Option.elim_some]

/-- Where the disk refuses to make a file, and not because one is there already, there is none to
remove. -/
theorem remove_of_create_eq_error {refusal : Refusal} (h : disk.create path = .error refusal)
    (hpresent : refusal ≠ .present) : disk.remove path = disk := by
  rw [remove, delete, (create_eq_error_iff hpresent).mp h]
  rfl

/-- A disk with nothing but the folder for temporary files. -/
def bare : Disk := ⟨.folder (Text.of "tmp"), [[Utf8.encode (Text.of "tmp")]], []⟩

end LexBridge.Disk
