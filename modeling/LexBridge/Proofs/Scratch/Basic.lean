import LexBridge.Outcome
import LexBridge.Proofs.Disk.Naming
import LexBridge.Proofs.Text.Utf8

/-!
# What a scratch file holds

A scratch file is there just if its path can be told, the disk makes a file under that path, and the
source can be written. Then it holds the bytes of the source, all of them and unchanged. Where there
is none, the disk is what it was, whatever was in the way: a file that could be made but not written
is removed again, and a file that was there before is not touched.

## Main definitions

* `Config.HasDirectory`: configurations in which the directory for scratch files is a path.
* `Scratch.Fits`: a scratch file can be made, at a location.
* `Scratch.Failure.Explained`: which failure it is where there is none.

## Main results

* `Scratch.enter_eq_ok_iff`: when there is a scratch file, and which disk it stands on.
* `Scratch.enter_eq_ok_iff_fits`: a scratch file that fits is one more file on the disk.
* `Scratch.explained_of_enter`: why there is no scratch file.
* `Scratch.disk_of_enter_eq_error`: without a scratch file the disk is what it was.
* `Scratch.leave_of_enter`: a scratch file that is removed leaves the disk as it was.
* `Scratch.read_of_enter`: what a scratch file holds.
* `Scratch.within_of_enter`: a call that is made with its scratch file.
-/

namespace LexBridge

/-- The directory for scratch files is a path, if one is configured at all. -/
def Config.HasDirectory (config : Config) : Prop :=
  config.tempDir = .null ∨ ∃ path, config.tempDir = .text path

namespace Scratch

variable {config : Config} {identifier path source : Text} {disk opened : Disk}

/-! ### Giving up -/

/-- To give a file up is to remove it, whatever is told about it. -/
theorem disk_giveUp (path : Text) (failure : Failure) (disk : Disk) :
    (giveUp path failure disk).1 = disk.remove path := by
  rw [giveUp, Disk.remove]
  cases disk.delete path with
  | ok left => rfl
  | error refusal => cases refusal <;> rfl

/-- What is told is why the file was given up, unless its path cannot be encoded. -/
theorem result_giveUp (path : Text) (failure : Failure) (disk : Disk) :
    (giveUp path failure disk).2 = .error
      (match Utf8.encodeName? path with
        | .ok _ => failure
        | .error run => .unencodable run) := by
  have hdelete (run : Utf8.SurrogateRun) :
      disk.delete path = .error (.unencodable run) ↔ Utf8.encodeName? path = .error run :=
    Disk.delete_eq_unencodable_iff
  rw [giveUp]
  cases hpath : Utf8.encodeName? path with
  | error run => rw [(hdelete run).mpr hpath]
  | ok bytes =>
    split
    · rfl
    · rename_i run hrun
      cases hpath.symm.trans ((hdelete run).mp hrun)
    · rfl

/-! ### Where there is a file -/

theorem createAt_eq_ok_iff {made : Text} :
    createAt path source disk = (opened, .ok made) ↔
      made = path ∧ Utf8.Writable source ∧
        ∃ empty, disk.create path = .ok empty ∧ opened = empty.write path (Utf8.encode source) := by
  have hgivenUp {failure : Failure} {left : Disk} :
      giveUp path failure left ≠ (opened, .ok made) := fun h => by
    cases (result_giveUp path failure left).symm.trans (congrArg Prod.snd h)
  unfold createAt
  constructor
  · intro h
    split at h
    · cases h
    · cases h
    · exact absurd h hgivenUp
    · rename_i empty hcreate
      split at h
      · exact absurd h hgivenUp
      · rename_i bytes hbytes
        obtain ⟨rfl, hmade⟩ := Prod.mk.inj h
        obtain ⟨hwritable, rfl⟩ := Utf8.encode?_eq_ok_iff.mp hbytes
        exact ⟨(Except.ok.inj hmade).symm, hwritable, empty, hcreate, rfl⟩
  · rintro ⟨rfl, hwritable, empty, hcreate, rfl⟩
    rw [hcreate]
    simp only [Utf8.encode?_of_writable hwritable]

/-- **There is a scratch file** just if its path can be told, the disk makes a file there, and the
source can be written. -/
theorem enter_eq_ok_iff :
    enter config identifier source disk = (opened, .ok path) ↔
      Scratch.path config disk identifier = .ok path ∧ Utf8.Writable source ∧
        ∃ empty, disk.create path = .ok empty ∧ opened = empty.write path (Utf8.encode source) := by
  rw [enter]
  cases hpath : Scratch.path config disk identifier with
  | error failure => simp
  | ok told =>
    simp only [createAt_eq_ok_iff, Except.ok.injEq]
    constructor
    · rintro ⟨rfl, h⟩
      exact ⟨rfl, h⟩
    · rintro ⟨rfl, h⟩
      exact ⟨rfl, h⟩

/-- A scratch file fits on a disk, at a location: its path can be told and names this location,
where there is no file yet, and its source can be written. -/
structure Fits (config : Config) (identifier source : Text) (disk : Disk) (path : Text)
    (here : Location) : Prop where
  path_eq : Scratch.path config disk identifier = .ok path
  writable : Utf8.Writable source
  names : disk.Names path here
  vacant : disk.file? here = none

/-- **A scratch file that fits is one more file on the disk**, and only one that fits is made. -/
theorem enter_eq_ok_iff_fits :
    enter config identifier source disk = (opened, .ok path) ↔
      ∃ here, Fits config identifier source disk path here ∧
        opened = disk.adding here (Utf8.encode source) := by
  rw [enter_eq_ok_iff]
  constructor
  · rintro ⟨hpath, hwritable, empty, hcreate, rfl⟩
    obtain ⟨here, hnames, hnone, rfl⟩ := Disk.create_eq_ok_iff_names.mp hcreate
    exact ⟨here, ⟨hpath, hwritable, hnames, hnone⟩,
      hnames.write_adding hnone [] (Utf8.encode source)⟩
  · rintro ⟨here, hfits, rfl⟩
    exact ⟨hfits.path_eq, hfits.writable, disk.adding here [],
      Disk.create_eq_ok_iff_names.mpr ⟨here, hfits.names, hfits.vacant, rfl⟩,
      (hfits.names.write_adding hfits.vacant [] (Utf8.encode source)).symm⟩

/-! ### Where there is none -/

/-- What keeps a file from being made at a path: the path cannot be encoded, or it holds a NUL, and
if it is neither, the failure is told as one to make the file. -/
theorem failure_cases_of_createAt {failure : Failure}
    (h : (createAt path source disk).2 = .error failure) :
    (∃ run, Utf8.encodeName? path = .error run ∧ failure = .unencodable run) ∨
      Utf8.Namable path ∧
        if 0 ∈ path then failure = .embeddedNul else failure.isTold = true := by
  cases hpath : Utf8.encodeName? path with
  | error run =>
    have hcreate : disk.create path = .error (.unencodable run) :=
      (Disk.create_eq_error_iff (by simp)).mpr (Disk.find_eq_unencodable_iff.mpr hpath)
    have hresult := result_giveUp path (.refused path (.unencodable run)) disk
    simp only [createAt, hcreate] at h
    rw [hpath, h] at hresult
    exact Or.inl ⟨run, rfl, Except.error.inj hresult⟩
  | ok bytes =>
    have hnamable : Utf8.Namable path := (Utf8.encodeName?_eq_ok_iff.mp hpath).1
    have htold {other : Failure} {left : Disk}
        (hother : (giveUp path other left).2 = .error failure) : failure = other := by
      rw [result_giveUp, hpath] at hother
      exact (Except.error.inj hother).symm
    have hnul : disk.create path = .error .embeddedNul ↔ 0 ∈ path :=
      (Disk.create_eq_error_iff (by simp)).trans
        (Disk.find_eq_embeddedNul_iff.trans (and_iff_right hnamable))
    refine Or.inr ⟨hnamable, ?_⟩
    rw [← if_congr hnul rfl rfl]
    unfold createAt at h
    split at h
    · rename_i hcreate
      rw [if_pos hcreate, ← Except.error.inj h]
    · rename_i hcreate
      rw [if_neg (by rw [hcreate]; nofun), ← Except.error.inj h]
      rfl
    · rename_i refusal hother _ hcreate
      rw [if_neg fun h => hother (Except.error.inj (hcreate.symm.trans h)), htold h]
      rfl
    · rename_i hcreate
      rw [if_neg (by rw [hcreate]; nofun)]
      split at h
      · rw [htold h]
        rfl
      · cases h

theorem exists_path_of_directory {folder : Path} (h : directory config disk = .ok folder)
    (identifier : Text) : ∃ path, Scratch.path config disk identifier = .ok path :=
  ⟨_, by rw [Scratch.path, h]; rfl⟩

/-- Where the directory is a path, or none, a scratch file has a path, unless there is no folder for
temporary files when it is needed. -/
theorem path_cases (h : config.HasDirectory) (disk : Disk) (identifier : Text) :
    (∃ path, Scratch.path config disk identifier = .ok path) ∧
        (config.tempDir.isTruthy = false → ∀ tried, disk.tempDir ≠ .missing tried) ∨
      ∃ tried, config.tempDir.isTruthy = false ∧ disk.tempDir = .missing tried ∧
        Scratch.path config disk identifier = .error (.noDirectory tried) := by
  cases htruthy : config.tempDir.isTruthy with
  | true =>
    obtain ⟨text, htext⟩ : ∃ text, config.tempDir = .text text := by
      rcases h with hnull | h
      · rw [hnull] at htruthy
        cases htruthy
      · exact h
    have hfolder : directory config disk = .ok (.ofText text) := by
      rw [directory, if_pos htruthy, htext]
      rfl
    exact Or.inl ⟨exists_path_of_directory hfolder identifier, nofun⟩
  | false =>
    have hplatform : ¬ config.tempDir.isTruthy = true := by rw [htruthy]; exact nofun
    cases hdisk : disk.tempDir with
    | folder folder =>
      have hfolder : directory config disk = .ok (.ofText folder) := by
        rw [directory, if_neg hplatform, hdisk]
      exact Or.inl ⟨exists_path_of_directory hfolder identifier, fun _ => nofun⟩
    | missing tried =>
      refine Or.inr ⟨tried, rfl, rfl, ?_⟩
      rw [Scratch.path, directory, if_neg hplatform, hdisk]
      rfl

/-- Which failure it is where there is no scratch file. Only the last sort is told as a failure to
make the file; the others pass through. -/
structure Failure.Explained (config : Config) (identifier : Text) (disk : Disk)
    (failure : Failure) : Prop where
  ne_badDirectory : ∀ fault, failure ≠ .badDirectory fault
  /-- There is no folder for temporary files just if that is needed and the disk has none. -/
  noDirectory_iff : ∀ tried, failure = .noDirectory tried ↔
    config.tempDir.isTruthy = false ∧ disk.tempDir = .missing tried
  /-- The path cannot be encoded. -/
  unencodable_iff : ∀ run, failure = .unencodable run ↔
    ∃ path, Scratch.path config disk identifier = .ok path ∧ Utf8.encodeName? path = .error run
  /-- The path can be encoded and holds a NUL. -/
  embeddedNul_iff : failure = .embeddedNul ↔
    ∃ path, Scratch.path config disk identifier = .ok path ∧ Utf8.Namable path ∧ 0 ∈ path
  /-- Nothing is wrong with the path itself. -/
  isTold_iff : failure.isTold = true ↔
    ∃ path, Scratch.path config disk identifier = .ok path ∧ Utf8.Namable path ∧ 0 ∉ path

namespace Failure.Explained

variable {failure : Failure}

/-- Where the path can be told, what keeps a file from being made there explains the failure. -/
theorem of_createAt (hpath : Scratch.path config disk identifier = .ok path)
    (hfolder : config.tempDir.isTruthy = false → ∀ tried, disk.tempDir ≠ .missing tried)
    (h : (createAt path source disk).2 = .error failure) :
    failure.Explained config identifier disk := by
  have hthe {p : Text → Prop} :
      (∃ other, Scratch.path config disk identifier = .ok other ∧ p other) ↔ p path := by
    simp [hpath]
  have hmissing (tried : List Text) :
      ¬ (config.tempDir.isTruthy = false ∧ disk.tempDir = .missing tried) :=
    fun hnone => hfolder hnone.1 tried hnone.2
  rcases failure_cases_of_createAt h with ⟨run, hrun, rfl⟩ | ⟨hnamable, hcase⟩
  · have hnot : ¬ Utf8.Namable path := fun hnamable => by
      cases hrun.symm.trans (Utf8.encodeName?_of_namable hnamable)
    refine ⟨nofun, fun tried => iff_of_false nofun (hmissing tried), fun other => ?_,
      iff_of_false nofun fun h => hnot (hthe.mp h).1,
      iff_of_false nofun fun h => hnot (hthe.mp h).1⟩
    rw [hthe, hrun, Failure.unencodable.injEq, Except.error.injEq]
  · have hencoded (run : Utf8.SurrogateRun) : Utf8.encodeName? path ≠ .error run := by
      rw [Utf8.encodeName?_of_namable hnamable]
      exact nofun
    split_ifs at hcase with hnul
    · subst hcase
      exact ⟨nofun, fun tried => iff_of_false nofun (hmissing tried),
        fun run => iff_of_false nofun fun h => hencoded run (hthe.mp h),
        iff_of_true rfl (hthe.mpr ⟨hnamable, hnul⟩),
        iff_of_false nofun fun h => (hthe.mp h).2 hnul⟩
    · -- what is told is none of the failures that pass through
      have hother {other : Failure} (hpasses : other.isTold = false) : failure ≠ other := by
        rintro rfl
        exact Bool.false_ne_true (hpasses.symm.trans hcase)
      exact ⟨fun _ => hother rfl, fun tried => iff_of_false (hother rfl) (hmissing tried),
        fun run => iff_of_false (hother rfl) fun h => hencoded run (hthe.mp h),
        iff_of_false (hother rfl) fun h => hnul (hthe.mp h).2,
        iff_of_true hcase (hthe.mpr ⟨hnamable, hnul⟩)⟩

/-- Where a folder is needed and there is none, that is what explains the failure. -/
theorem of_missing {tried : List Text} (htruthy : config.tempDir.isTruthy = false)
    (hdisk : disk.tempDir = .missing tried)
    (hpath : Scratch.path config disk identifier = .error (.noDirectory tried)) :
    Failure.Explained config identifier disk (.noDirectory tried) := by
  have hno {p : Text → Prop} :
      ¬ ∃ path, Scratch.path config disk identifier = .ok path ∧ p path := by
    simp [hpath]
  refine ⟨nofun, fun other => ?_, fun run => iff_of_false nofun hno, iff_of_false nofun hno,
    iff_of_false nofun hno⟩
  rw [hdisk, Failure.noDirectory.injEq, TempDir.missing.injEq, and_iff_right htruthy]

end Failure.Explained

/-- **Why there is no scratch file**, where the configured directory is a path or there is none. -/
theorem explained_of_enter {failure : Failure} (hdirectory : config.HasDirectory)
    (h : (enter config identifier source disk).2 = .error failure) :
    failure.Explained config identifier disk := by
  rcases path_cases hdirectory disk identifier with ⟨⟨path, hpath⟩, hfolder⟩ |
    ⟨tried, htruthy, hdisk, hpath⟩
  · have hcreate : (createAt path source disk).2 = .error failure := by
      simpa only [enter, hpath] using h
    exact .of_createAt hpath hfolder hcreate
  · obtain rfl : failure = .noDirectory tried := by
      simpa only [enter, hpath, Except.error.injEq, eq_comm] using h
    exact .of_missing htruthy hdisk hpath

theorem disk_of_createAt_eq_error {failure : Failure}
    (h : createAt path source disk = (opened, .error failure)) : opened = disk := by
  have hgivenUp {other : Failure} {left : Disk}
      (hleft : giveUp path other left = (opened, .error failure)) : opened = left.remove path :=
    (congrArg Prod.fst hleft).symm.trans (disk_giveUp path other left)
  unfold createAt at h
  split at h
  · exact (congrArg Prod.fst h).symm
  · exact (congrArg Prod.fst h).symm
  · rename_i refusal _ hpresent hcreate
    rw [hgivenUp h, Disk.remove_of_create_eq_error hcreate hpresent]
  · rename_i empty hcreate
    obtain ⟨here, hnames, hnone, rfl⟩ := Disk.create_eq_ok_iff_names.mp hcreate
    split at h
    · have hadded : (disk.adding here []).Names path here := hnames.of_folders_eq rfl
      rw [hgivenUp h, hadded.remove_eq, Disk.without_adding hnone]
    · cases (Prod.mk.inj h).2

/-- **Without a scratch file the disk is what it was**, whatever the failure. -/
theorem disk_of_enter_eq_error {failure : Failure}
    (h : enter config identifier source disk = (opened, .error failure)) : opened = disk := by
  rw [enter] at h
  split at h
  · exact (congrArg Prod.fst h).symm
  · exact disk_of_createAt_eq_error h

/-- **A scratch file holds the bytes of its source**, and nothing else. -/
theorem read_of_enter (h : enter config identifier source disk = (opened, .ok path)) :
    opened.read path = .ok (Utf8.encode source) := by
  obtain ⟨-, -, empty, hcreate, rfl⟩ := enter_eq_ok_iff.mp h
  exact Disk.read_write_of_create hcreate (Utf8.encode source)

/-- **A scratch file that is removed leaves the disk as it was**, also if somebody has deleted it
before. -/
theorem leave_of_enter (h : enter config identifier source disk = (opened, .ok path)) :
    leave path opened = disk ∧ leave path (opened.remove path) = disk := by
  obtain ⟨here, hfits, rfl⟩ := enter_eq_ok_iff_fits.mp h
  have hopened : (disk.adding here (Utf8.encode source)).Names path here :=
    hfits.names.of_folders_eq rfl
  have hleft : (disk.adding here (Utf8.encode source)).remove path = disk := by
    rw [hopened.remove_eq, Disk.without_adding hfits.vacant]
  refine ⟨hleft, ?_⟩
  rw [hleft, leave, hfits.names.remove_eq, Disk.without_of_file?_eq_none hfits.vacant]

/-- Before a scratch file is made there is none under its path. -/
theorem read_before_enter (h : enter config identifier source disk = (opened, .ok path)) :
    disk.read path = .error .missing := by
  obtain ⟨here, hfits, -⟩ := enter_eq_ok_iff_fits.mp h
  rw [hfits.names.read_eq, hfits.vacant, Option.elim_none]

/-- A call that is made with its scratch file. -/
theorem within_of_enter {α : Type} (h : enter config identifier source disk = (opened, .ok path))
    (call : Text → Disk → Outcome α) :
    within config identifier source call disk =
      ⟨(call path opened).result, leave path (call path opened).disk,
        .logged (.scratchCreated path) :: (call path opened).journal ++
          [.logged (.scratchRemoved path)]⟩ := by
  rw [within, h]

end Scratch

end LexBridge
