import LexBridge.Proofs.Scratch.Basic
import LexBridge.Proofs.Scratch.Path
import LexBridge.Scratch.Scopes
import Mathlib.Data.List.Induction
import Mathlib.Data.List.Nodup

/-!
# Overlapping scratch files keep apart

Scopes are entered and left in any order, and somebody else may delete their files meanwhile.
Whoever watches the steps and what is told about them knows which scopes are open, and which of
their files are still there. The disk is just that: the files of the beginning, unchanged, and
behind them one file for each open scope that has not lost it. A scope that cannot be entered
changes nothing.

What keeps the files apart are the identifiers, of which no two are the same. Configurations, paths
and sources are arbitrary, and there may be any files on the disk when the first scope is entered.

## Main definitions

* `Scratch.Orderly`: steps that use no label and no identifier twice.
* `Scratch.OpenScope`, `Scratch.Watched`: what a watcher knows of an open scope, and of all of them.
* `Scratch.Watched.after`: what a watcher knows after some steps.
* `Scratch.Watched.Kept`: the disk is what the watcher expects.
* `Scratch.Told`: all that may be told about a step.

## Main results

* `Scratch.sound_next`: one step.
* `Scratch.sound_after`: all steps.
* `Scratch.scopes_keep_apart`: the disk after every step, and what is told about the step.
-/

namespace LexBridge.Scratch

/-! ### Steps -/

/-- The label of a scope that is to be entered. -/
def Step.label? : Step → Option Nat
  | .enter label _ _ _ => some label
  | _ => none

/-- The identifier of a scope that is to be entered. -/
def Step.identifier? : Step → Option Text
  | .enter _ _ identifier _ => some identifier
  | _ => none

/-- Steps that use no label twice and no identifier twice. -/
structure Orderly (steps : List Step) : Prop where
  labels_nodup : (steps.filterMap Step.label?).Nodup
  identifiers_nodup : (steps.filterMap Step.identifier?).Nodup
  isIdentifier : ∀ identifier ∈ steps.filterMap Step.identifier?, IsIdentifier identifier

theorem Orderly.of_append {steps more : List Step} (h : Orderly (steps ++ more)) :
    Orderly steps where
  labels_nodup := by
    have hnodup := h.labels_nodup
    rw [List.filterMap_append] at hnodup
    exact List.Nodup.of_append_left hnodup
  identifiers_nodup := by
    have hnodup := h.identifiers_nodup
    rw [List.filterMap_append] at hnodup
    exact List.Nodup.of_append_left hnodup
  isIdentifier identifier hidentifier := h.isIdentifier identifier <| by
    rw [List.filterMap_append]
    exact List.mem_append_left _ hidentifier

/-- A scope that is to be entered next has a label and an identifier of its own. -/
theorem Orderly.fresh {steps : List Step} {label : Nat} {config : Config} {identifier source : Text}
    (h : Orderly (steps ++ [.enter label config identifier source])) :
    label ∉ steps.filterMap Step.label? ∧ identifier ∉ steps.filterMap Step.identifier? ∧
      IsIdentifier identifier := by
  have hlabels := h.labels_nodup
  have hidentifiers := h.identifiers_nodup
  rw [List.filterMap_append, List.nodup_append] at hlabels hidentifiers
  refine ⟨fun hmem => ?_, fun hmem => ?_, h.isIdentifier identifier (by simp [Step.identifier?])⟩
  · exact hlabels.2.2 label hmem label (List.mem_singleton_self label) rfl
  · exact hidentifiers.2.2 identifier hmem identifier (List.mem_singleton_self identifier) rfl

/-! ### Watching -/

/-- What a watcher knows of an open scope. -/
structure OpenScope where
  label : Nat
  path : Text
  source : Text
  /-- Whether somebody else has deleted the file. -/
  deleted : Bool

namespace OpenScope

/-- Where the file of a scope stands. -/
def place (initial : Disk) (scope : OpenScope) : Location := initial.place scope.path

/-- The file of a scope: it holds the bytes of the source. -/
def file (initial : Disk) (scope : OpenScope) : Location × List UInt8 :=
  (scope.place initial, Utf8.encode scope.source)

/-- The scope, known to have lost its file if it has the given label. -/
def mark (label : Nat) (scope : OpenScope) : OpenScope :=
  if scope.label = label then { scope with deleted := true } else scope

@[simp] theorem label_mark (label : Nat) (scope : OpenScope) :
    (scope.mark label).label = scope.label := by
  unfold mark
  split <;> rfl

@[simp] theorem path_mark (label : Nat) (scope : OpenScope) :
    (scope.mark label).path = scope.path := by
  unfold mark
  split <;> rfl

@[simp] theorem place_mark (initial : Disk) (label : Nat) (scope : OpenScope) :
    (scope.mark label).place initial = scope.place initial := by
  rw [place, path_mark, place]

@[simp] theorem file_mark (initial : Disk) (label : Nat) (scope : OpenScope) :
    (scope.mark label).file initial = scope.file initial := by
  have hsource : (scope.mark label).source = scope.source := by
    unfold mark
    split <;> rfl
  rw [file, place_mark, hsource, file]

theorem not_deleted_mark (label : Nat) (scope : OpenScope) :
    (!(scope.mark label).deleted) = (!scope.deleted && decide (scope.label ≠ label)) := by
  unfold mark
  split <;> simp [*]

/-- The open scopes after a step, by what has been told about it. -/
def track (opened : List OpenScope) : Step → Report → List OpenScope
  | .enter label _ _ source, .entered path => opened ++ [⟨label, path, source, false⟩]
  | .leave label _, .left _ => opened.filter fun scope => scope.label ≠ label
  | .delete label, .deleted => opened.map (mark label)
  | _, _ => opened

end OpenScope

/-- Scopes, and what a watcher knows of the open ones. -/
structure Watched where
  scopes : Scopes
  opened : List OpenScope

namespace Watched

/-- What a watcher knows after a step. -/
def next (watched : Watched) (step : Step) : Watched :=
  ⟨(watched.scopes.step step).1, OpenScope.track watched.opened step (watched.scopes.step step).2.1⟩

/-- What a watcher knows who has seen all the steps on a disk. -/
def after (initial : Disk) (steps : List Step) : Watched := steps.foldl next ⟨⟨initial, []⟩, []⟩

/-- The files of the open scopes that nobody has deleted, in the order in which they were made. -/
def files (initial : Disk) (watched : Watched) : List (Location × List UInt8) :=
  (watched.opened.filter fun scope => !scope.deleted).map (·.file initial)

/-- The disk is what a watcher expects: the files of the beginning and those of the open scopes.
Each of these stands where its path leads, where there was no file in the beginning, and no two of
them stand at the same place. -/
structure Kept (initial : Disk) (watched : Watched) : Prop where
  opened_eq : watched.scopes.opened = watched.opened.map fun scope => (scope.label, scope.path)
  disk_eq : watched.scopes.disk = { initial with files := initial.files ++ watched.files initial }
  names : ∀ scope ∈ watched.opened, initial.Names scope.path (scope.place initial)
  vacant : ∀ scope ∈ watched.opened, initial.file? (scope.place initial) = none
  places_nodup : (watched.opened.map fun scope => scope.place initial).Nodup

end Watched

/-- All that may be told about a step. A scope is entered just if its file fits, and noted then;
else nothing changes. It is noted too when an open scope is left, whether or not its file is still
there. The file of an open scope can be deleted once. -/
inductive Told (before : Watched) : Step → Report → List Log.Record → Watched → Prop
  | entered {label : Nat} {config : Config} {identifier source path : Text} {here : Location}
      {after : Watched} (fits : Fits config identifier source before.scopes.disk path here)
      (opened_eq : after.opened = before.opened ++ [⟨label, path, source, false⟩]) :
      Told before (.enter label config identifier source) (.entered path) [.scratchCreated path]
        after
  | failed {label : Nat} {config : Config} {identifier source : Text} {failure : Failure}
      (not_fits : ∀ path here, ¬ Fits config identifier source before.scopes.disk path here) :
      Told before (.enter label config identifier source) (.failed failure) [] before
  | left {scope : OpenScope} {raised : Bool} {after : Watched} (mem : scope ∈ before.opened)
      (opened_eq : after.opened = before.opened.filter fun other => other.label ≠ scope.label) :
      Told before (.leave scope.label raised) (.left raised) [.scratchRemoved scope.path] after
  | deleted {scope : OpenScope} {after : Watched} (mem : scope ∈ before.opened)
      (not_deleted : scope.deleted = false)
      (opened_eq : after.opened = before.opened.map (.mark scope.label)) :
      Told before (.delete scope.label) .deleted [] after
  | gone {scope : OpenScope} (mem : scope ∈ before.opened) (deleted : scope.deleted = true) :
      Told before (.delete scope.label) (.notDeleted scope.path .missing) [] before
  | notLeft {label : Nat} {raised : Bool}
      (not_open : ∀ scope ∈ before.opened, scope.label ≠ label) :
      Told before (.leave label raised) .skipped [] before
  | notDeleted {label : Nat} (not_open : ∀ scope ∈ before.opened, scope.label ≠ label) :
      Told before (.delete label) .skipped [] before

/-! ### What a watcher knows is right -/

/-- Images stay different from each other when one more is put behind them that is none of them. -/
theorem nodup_map_concat {α β : Type} {f : α → β} {items : List α} {item : α}
    (h : (items.map f).Nodup) (hitem : ∀ other ∈ items, f other ≠ f item) :
    ((items ++ [item]).map f).Nodup := by
  rw [List.map_append, List.map_singleton, List.nodup_append]
  refine ⟨h, List.pairwise_singleton _ _, fun image himage last hlast => ?_⟩
  obtain ⟨other, hother, rfl⟩ := List.mem_map.mp himage
  obtain rfl := List.mem_singleton.mp hlast
  exact hitem other hother

/-- The disk is what a watcher expects, and the open scopes are among those that have been entered
in the steps. No two of them have the same label. -/
structure Sound (initial : Disk) (steps : List Step) (watched : Watched) : Prop where
  kept : watched.Kept initial
  labels_nodup : (watched.opened.map (·.label)).Nodup
  label_mem : ∀ scope ∈ watched.opened, scope.label ∈ steps.filterMap Step.label?
  exists_identifier : ∀ scope ∈ watched.opened,
    ∃ identifier ∈ steps.filterMap Step.identifier?, identifier <:+ scope.path

variable {initial : Disk} {steps : List Step} {step : Step} {watched : Watched}

namespace Watched.Kept

variable (h : watched.Kept initial)
include h

theorem folders_eq : initial.folders = watched.scopes.disk.folders := by rw [h.disk_eq]

/-- On the disk a path still names what it named in the beginning. -/
theorem names_now {scope : OpenScope} (hscope : scope ∈ watched.opened) :
    watched.scopes.disk.Names scope.path (scope.place initial) :=
  (h.names scope hscope).of_folders_eq h.folders_eq

theorem eq_of_place_eq {a b : OpenScope} (ha : a ∈ watched.opened) (hb : b ∈ watched.opened)
    (hplace : a.place initial = b.place initial) : a = b :=
  List.inj_on_of_nodup_map h.places_nodup ha hb hplace

theorem file?_eq (here : Location) :
    watched.scopes.disk.file? here =
      (initial.file? here).or ((watched.files initial).lookup here) := by
  rw [h.disk_eq, Disk.file?, List.lookup_append, Disk.file?]

/-- **The file of an open scope holds its source**, until somebody deletes it. -/
theorem file?_place {scope : OpenScope} (hscope : scope ∈ watched.opened) :
    watched.scopes.disk.file? (scope.place initial) =
      if scope.deleted then none else some (Utf8.encode scope.source) := by
  rw [h.file?_eq, h.vacant scope hscope, Option.none_or]
  split
  · rename_i hdeleted
    refine List.lookup_eq_none_iff.mpr fun file hfile => bne_iff_ne.mpr ?_
    obtain ⟨other, hother, rfl⟩ := List.mem_map.mp hfile
    obtain ⟨hopen, hstands⟩ := List.mem_filter.mp hother
    intro hplace
    rw [h.eq_of_place_eq hscope hopen hplace] at hdeleted
    simp [hdeleted] at hstands
  · rename_i hstands
    have hmem : scope ∈ watched.opened.filter fun scope => !scope.deleted :=
      List.mem_filter.mpr ⟨hscope, by simpa using hstands⟩
    have hnodup : ((watched.opened.filter fun scope => !scope.deleted).map
        fun scope => scope.place initial).Nodup :=
      h.places_nodup.sublist (List.filter_sublist.map _)
    obtain ⟨front, back, hsplit⟩ := List.append_of_mem hmem
    rw [hsplit, List.map_append, List.nodup_append] at hnodup
    refine List.lookup_eq_some_iff.mpr
      ⟨front.map (·.file initial), back.map (·.file initial), ?_, fun file hfile => ?_⟩
    · rw [Watched.files, hsplit, List.map_append]
      rfl
    · obtain ⟨other, hother, rfl⟩ := List.mem_map.mp hfile
      exact bne_iff_ne.mpr <| Ne.symm <| hnodup.2.2 _ (List.mem_map_of_mem hother) _
        (List.mem_map_of_mem List.mem_cons_self)

/-- What is read under the path of an open scope. -/
theorem read_eq {scope : OpenScope} (hscope : scope ∈ watched.opened) :
    watched.scopes.disk.read scope.path =
      if scope.deleted then .error .missing else .ok (Utf8.encode scope.source) := by
  rw [(h.names_now hscope).read_eq, h.file?_place hscope]
  split <;> rfl

/-- A file that is made for a new scope, where no other scope has or had one, is the last one. -/
theorem adding (scope : OpenScope) (hstands : scope.deleted = false)
    (hnames : initial.Names scope.path (scope.place initial))
    (hvacant : initial.file? (scope.place initial) = none)
    (happart : ∀ other ∈ watched.opened, other.place initial ≠ scope.place initial) :
    Watched.Kept initial
      ⟨⟨watched.scopes.disk.adding (scope.place initial) (Utf8.encode scope.source),
        watched.scopes.opened ++ [(scope.label, scope.path)]⟩, watched.opened ++ [scope]⟩ where
  opened_eq := by
    rw [List.map_append, h.opened_eq]
    rfl
  disk_eq := by
    have hfile : ([scope].filter fun scope => !scope.deleted).map (·.file initial) =
        [(scope.place initial, Utf8.encode scope.source)] := by simp [hstands, OpenScope.file]
    simp only [Disk.adding, h.disk_eq, Watched.files, List.filter_append, List.map_append, hfile,
      List.append_assoc]
  names := List.forall_mem_append.mpr ⟨h.names, List.forall_mem_singleton.mpr hnames⟩
  vacant := List.forall_mem_append.mpr ⟨h.vacant, List.forall_mem_singleton.mpr hvacant⟩
  places_nodup := nodup_map_concat h.places_nodup happart

theorem path?_eq_some {label : Nat} {path : Text} (hpath : watched.scopes.path? label = some path) :
    ∃ scope ∈ watched.opened, scope.label = label ∧ scope.path = path := by
  rw [Scopes.path?, h.opened_eq] at hpath
  obtain ⟨front, back, hsplit, -⟩ := List.lookup_eq_some_iff.mp hpath
  have hmem : (label, path) ∈ watched.opened.map fun scope => (scope.label, scope.path) := by
    rw [hsplit]
    exact List.mem_append_right _ List.mem_cons_self
  obtain ⟨scope, hscope, heq⟩ := List.mem_map.mp hmem
  exact ⟨scope, hscope, congrArg Prod.fst heq, congrArg Prod.snd heq⟩

theorem path?_eq_none {label : Nat} (hpath : watched.scopes.path? label = none) :
    ∀ scope ∈ watched.opened, scope.label ≠ label := by
  rw [Scopes.path?, h.opened_eq] at hpath
  intro scope hscope
  exact (bne_iff_ne.mp
    (List.lookup_eq_none_iff.mp hpath _ (List.mem_map_of_mem hscope))).symm

end Watched.Kept

theorem sound_nil (initial : Disk) : Sound initial [] ⟨⟨initial, []⟩, []⟩ where
  kept :=
    { opened_eq := rfl
      disk_eq := by simp [Watched.files]
      names := nofun
      vacant := nofun
      places_nodup := List.nodup_nil }
  labels_nodup := List.nodup_nil
  label_mem := nofun
  exists_identifier := nofun

namespace Sound

variable (h : Sound initial steps watched)
include h

/-- Nothing is wrong with a step that changes nothing. -/
theorem append (step : Step) : Sound initial (steps ++ [step]) watched where
  kept := h.kept
  labels_nodup := h.labels_nodup
  label_mem scope hscope := by
    rw [List.filterMap_append]
    exact List.mem_append_left _ (h.label_mem scope hscope)
  exists_identifier scope hscope := by
    obtain ⟨identifier, hmem, hpath⟩ := h.exists_identifier scope hscope
    rw [List.filterMap_append]
    exact ⟨identifier, List.mem_append_left _ hmem, hpath⟩

/-- A place tells which scope it belongs to, as a label does. -/
theorem place_ne_iff {a b : OpenScope} (ha : a ∈ watched.opened) (hb : b ∈ watched.opened) :
    a.place initial ≠ b.place initial ↔ a.label ≠ b.label := by
  refine not_congr ⟨fun hplace => ?_, fun hlabel => ?_⟩
  · rw [h.kept.eq_of_place_eq ha hb hplace]
  · rw [List.inj_on_of_nodup_map h.labels_nodup ha hb hlabel]

/-- The disk without the file of a scope: no other file is gone. -/
theorem without_place {scope : OpenScope} (hscope : scope ∈ watched.opened) :
    watched.scopes.disk.without (scope.place initial) =
      { initial with
        files := initial.files ++ ((watched.opened.filter fun other =>
          !other.deleted && decide (other.label ≠ scope.label)).map (·.file initial)) } := by
  have hinitial : initial.files.filter (fun file => file.1 ≠ scope.place initial) =
      initial.files :=
    congrArg Disk.files (Disk.without_of_file?_eq_none (h.kept.vacant scope hscope))
  have hscopes : (watched.files initial).filter (fun file => file.1 ≠ scope.place initial) =
      (watched.opened.filter fun other =>
        !other.deleted && decide (other.label ≠ scope.label)).map (·.file initial) := by
    rw [Watched.files, List.filter_map, List.filter_filter]
    congr 1
    refine List.filter_congr fun other hother => ?_
    rw [Bool.and_comm]
    congr 1
    exact decide_eq_decide.mpr (h.place_ne_iff hother hscope)
  rw [h.kept.disk_eq, Disk.without, List.filter_append, hinitial, hscopes]

/-- **A scope is entered.** Its identifier is new, and so the file stands where none of the other
scopes has or had one. -/
theorem enter {label : Nat} {config : Config} {identifier source path : Text} {here : Location}
    (horderly : Orderly (steps ++ [.enter label config identifier source]))
    (hfits : Fits config identifier source watched.scopes.disk path here) :
    Sound initial (steps ++ [.enter label config identifier source])
      ⟨⟨watched.scopes.disk.adding here (Utf8.encode source),
        watched.scopes.opened ++ [(label, path)]⟩,
        watched.opened ++ [⟨label, path, source, false⟩]⟩ := by
  obtain ⟨hlabel, hidentifier, hnew⟩ := horderly.fresh
  have hpath : identifier <:+ path := hnew.suffix_of_path hfits.path_eq
  have hnames : initial.Names path here := hfits.names.of_folders_eq h.kept.folders_eq.symm
  obtain rfl : initial.place path = here := hnames.place_eq
  have hvacant : initial.file? (initial.place path) = none := by
    have hnone := hfits.vacant
    rw [h.kept.file?_eq, Option.or_eq_none_iff] at hnone
    exact hnone.1
  have happart : ∀ scope ∈ watched.opened, scope.place initial ≠ initial.place path := by
    intro scope hscope hplace
    obtain ⟨other, hother, hsuffix⟩ := h.exists_identifier scope hscope
    have hold : IsIdentifier other := horderly.of_append.isIdentifier other hother
    have hscopeNames := h.kept.names scope hscope
    rw [hplace] at hscopeNames
    exact hidentifier (hnew.eq_of_names hold hpath hsuffix hnames hscopeNames ▸ hother)
  have hall := h.append (.enter label config identifier source)
  refine ⟨h.kept.adding ⟨label, path, source, false⟩ rfl hnames hvacant happart, ?_, ?_, ?_⟩
  · refine nodup_map_concat h.labels_nodup fun scope hscope (heq : scope.label = label) => ?_
    exact hlabel (heq ▸ h.label_mem scope hscope)
  · refine List.forall_mem_append.mpr ⟨hall.label_mem, List.forall_mem_singleton.mpr ?_⟩
    simp [Step.label?]
  · refine List.forall_mem_append.mpr ⟨hall.exists_identifier, List.forall_mem_singleton.mpr ?_⟩
    exact ⟨identifier, by simp [Step.identifier?], hpath⟩

/-- **A scope is left.** Its file is gone then, and all others are as they were. -/
theorem leave {scope : OpenScope} (hscope : scope ∈ watched.opened) :
    Sound initial steps
      ⟨⟨Scratch.leave scope.path watched.scopes.disk,
        watched.scopes.opened.filter fun entry => entry.1 ≠ scope.label⟩,
        watched.opened.filter fun other => other.label ≠ scope.label⟩ where
  kept :=
    { opened_eq := by
        rw [h.kept.opened_eq, List.filter_map]
        rfl
      disk_eq := by
        rw [Scratch.leave, (h.kept.names_now hscope).remove_eq, h.without_place hscope]
        simp only [Watched.files, List.filter_filter]
      names := fun other hother => h.kept.names other (List.mem_of_mem_filter hother)
      vacant := fun other hother => h.kept.vacant other (List.mem_of_mem_filter hother)
      places_nodup := h.kept.places_nodup.sublist (List.filter_sublist.map _) }
  labels_nodup := h.labels_nodup.sublist (List.filter_sublist.map _)
  label_mem other hother := h.label_mem other (List.mem_of_mem_filter hother)
  exists_identifier other hother := h.exists_identifier other (List.mem_of_mem_filter hother)

/-- **Somebody deletes the file of a scope.** The scope stays open, and all other files are as they
were. -/
theorem delete {scope : OpenScope} (hscope : scope ∈ watched.opened) :
    Sound initial steps
      ⟨{ watched.scopes with disk := watched.scopes.disk.without (scope.place initial) },
        watched.opened.map (.mark scope.label)⟩ where
  kept :=
    { opened_eq := by simp [h.kept.opened_eq]
      disk_eq := by
        rw [h.without_place hscope]
        simp only [Watched.files, List.filter_map, List.map_map, Function.comp_def,
          OpenScope.not_deleted_mark, OpenScope.file_mark]
      names := by simpa using h.kept.names
      vacant := by simpa using h.kept.vacant
      places_nodup := by simpa [Function.comp_def] using h.kept.places_nodup }
  labels_nodup := by simpa [Function.comp_def] using h.labels_nodup
  label_mem := by simpa using h.label_mem
  exists_identifier := by simpa using h.exists_identifier

end Sound

/-! ### Steps and runs -/

/-- **One step.** It changes scopes and disk as a watcher expects it who is told about it. -/
theorem sound_next (h : Sound initial steps watched) (horderly : Orderly (steps ++ [step])) :
    Sound initial (steps ++ [step]) (watched.next step) ∧
      Told watched step (watched.scopes.step step).2.1 (watched.scopes.step step).2.2
        (watched.next step) := by
  cases step with
  | enter label config identifier source =>
    rcases henter : Scratch.enter config identifier source watched.scopes.disk with
      ⟨disk, failure | path⟩
    · obtain rfl := disk_of_enter_eq_error henter
      have hstep : watched.scopes.step (.enter label config identifier source) =
          (watched.scopes, .failed failure, []) := by simp only [Scopes.step, henter]
      have hnext : watched.next (.enter label config identifier source) = watched := by
        simp only [Watched.next, hstep, OpenScope.track]
      rw [hnext, hstep]
      refine ⟨h.append _, .failed fun path here hfits => ?_⟩
      have hok := enter_eq_ok_iff_fits.mpr ⟨here, hfits, rfl⟩
      cases (Prod.mk.inj (henter.symm.trans hok)).2
    · obtain ⟨here, hfits, rfl⟩ := enter_eq_ok_iff_fits.mp henter
      have hstep : watched.scopes.step (.enter label config identifier source) =
          (⟨watched.scopes.disk.adding here (Utf8.encode source),
            watched.scopes.opened ++ [(label, path)]⟩, .entered path, [.scratchCreated path]) := by
        simp only [Scopes.step, henter]
      simp only [Watched.next, hstep, OpenScope.track]
      exact ⟨h.enter horderly hfits, .entered hfits rfl⟩
  | leave label raised =>
    cases hpath : watched.scopes.path? label with
    | none =>
      have hstep : watched.scopes.step (.leave label raised) = (watched.scopes, .skipped, []) := by
        simp only [Scopes.step, hpath]
      simp only [Watched.next, hstep, OpenScope.track]
      exact ⟨h.append _, .notLeft (h.kept.path?_eq_none hpath)⟩
    | some path =>
      obtain ⟨scope, hscope, rfl, rfl⟩ := h.kept.path?_eq_some hpath
      simp only [Watched.next, Scopes.step, hpath, OpenScope.track]
      exact ⟨(h.leave hscope).append _, .left hscope rfl⟩
  | delete label =>
    cases hpath : watched.scopes.path? label with
    | none =>
      have hstep : watched.scopes.step (.delete label) = (watched.scopes, .skipped, []) := by
        simp only [Scopes.step, hpath]
      simp only [Watched.next, hstep, OpenScope.track]
      exact ⟨h.append _, .notDeleted (h.kept.path?_eq_none hpath)⟩
    | some path =>
      obtain ⟨scope, hscope, rfl, rfl⟩ := h.kept.path?_eq_some hpath
      have hdelete := (h.kept.names_now hscope).delete_eq
      rw [h.kept.file?_place hscope] at hdelete
      cases hdeleted : scope.deleted with
      | true =>
        have hgone : watched.scopes.disk.delete scope.path = .error .missing := by
          simpa [hdeleted] using hdelete
        have hstep : watched.scopes.step (.delete scope.label) =
            (watched.scopes, .notDeleted scope.path .missing, []) := by
          simp only [Scopes.step, hpath, hgone]
        simp only [Watched.next, hstep, OpenScope.track]
        exact ⟨h.append _, .gone hscope hdeleted⟩
      | false =>
        have hremoved : watched.scopes.disk.delete scope.path =
            .ok (watched.scopes.disk.without (scope.place initial)) := by
          simpa [hdeleted] using hdelete
        simp only [Watched.next, Scopes.step, hpath, hremoved, OpenScope.track]
        exact ⟨(h.delete hscope).append _, .deleted hscope hdeleted rfl⟩

theorem after_append (initial : Disk) (steps : List Step) (step : Step) :
    Watched.after initial (steps ++ [step]) = (Watched.after initial steps).next step := by
  rw [Watched.after, List.foldl_append, ← Watched.after]
  rfl

/-- **All steps.** By induction from the last step, which `sound_next` treats. -/
theorem sound_after (h : Orderly steps) : Sound initial steps (Watched.after initial steps) := by
  induction steps using List.reverseRecOn with
  | nil => exact sound_nil initial
  | append_singleton steps step ih =>
    rw [after_append]
    exact (sound_next (ih h.of_append) h).1

/-- **Overlapping scratch files keep apart.** After every step, in whatever order scopes are
entered, left and robbed of their files, the disk holds the files of the beginning, unchanged, and a
file with its source for each open scope that has not been robbed. The step is told as it is, and a
scope that cannot be entered changes nothing. -/
theorem scopes_keep_apart (initial : Disk) (steps : List Step) (step : Step)
    (h : Orderly (steps ++ [step])) :
    let before := Watched.after initial steps
    let after := Watched.after initial (steps ++ [step])
    before.Kept initial ∧ after.Kept initial ∧
      (∀ scope ∈ after.opened, after.scopes.disk.read scope.path =
        if scope.deleted then .error .missing else .ok (Utf8.encode scope.source)) ∧
      Told before step (before.scopes.step step).2.1 (before.scopes.step step).2.2 after := by
  intro before after
  have hbefore : Sound initial steps before := sound_after h.of_append
  have hafter : after = before.next step := after_append initial steps step
  obtain ⟨hsound, htold⟩ := sound_next hbefore h
  rw [← hafter] at hsound htold
  exact ⟨hbefore.kept, hsound.kept, fun scope => hsound.kept.read_eq, htold⟩

theorem scopes_keep_apart_two :
    let initial : Disk := .bare
    let steps : List Step := [.enter 0 .default (.replicate 36 0x61) (Text.of "a"),
      .enter 1 .default (.replicate 36 0x62) (Text.of "b")]
    let after := Watched.after initial (steps ++ [.leave 0 true])
    Orderly (steps ++ [.leave 0 true]) ∧ after.opened.map (·.source) = [Text.of "b"] ∧
      after.Kept initial := by
  intro initial steps after
  have horderly : Orderly (steps ++ [.leave 0 true]) := by
    refine ⟨by decide, by decide, fun identifier hidentifier => ?_⟩
    obtain rfl | rfl : identifier = .replicate 36 0x61 ∨ identifier = .replicate 36 0x62 := by
      simpa [steps, Step.identifier?] using hidentifier
    · exact ⟨by decide, by decide, by decide⟩
    · exact ⟨by decide, by decide, by decide⟩
  exact ⟨horderly, by decide +kernel,
    (scopes_keep_apart initial steps (.leave 0 true) horderly).2.1⟩

end LexBridge.Scratch
