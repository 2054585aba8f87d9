import ModuleReadme.Profile

/-!
# What a profile holds

The profile of a module, without the log: each of its parts as a function of the inventory and of
the files that can be read (`value_profileOf`, `profile_eq_ok_iff`).
-/

/-!
## The parts of a profile

Each part is computed while something is logged. The value of a computation that logs is that of its
steps, so what is left of each part is a function of the files that can be read.
-/

namespace ModuleReadme

open Readme

/-- The file at a path, if it can be read. -/
def Workspace.textFile? (w : Workspace) (path : Path) : Option TextFile :=
  (w.textFile path).toOption

/-- The description in a README, as text. -/
def TextFile.description? (file : TextFile) : Option String :=
  (descriptionIn? file.content.toList).map String.ofList

namespace Workspace

theorem value_readOptional (w : Workspace) (path : Option Path) :
    (w.readOptional path).value = path.bind w.textFile? := by
  cases path with
  | none => rfl
  | some path =>
      rw [readOptional, Logged.value_bind, readOne, Logged.value_bind, Logged.value_pure,
        Option.bind_some, textFile?]
      cases w.textFile path <;> rfl

theorem value_readFiles (w : Workspace) (paths : List Path) :
    (w.readFiles paths).value = paths.filterMap w.textFile? :=
  w.value_readEach paths

end Workspace

theorem value_controllersOf (files : List TextFile) :
    (controllersOf files).value =
      files.filterMap fun file => Controller.ofText? file.stem file.content := by
  induction files with
  | nil => rfl
  | cons file files ih =>
      show (controllerNamed file.stem file.content).value.toList ++ (controllersOf files).value = _
      rw [ih, value_controllerNamed, List.filterMap_cons]
      cases Controller.ofText? file.stem file.content <;> rfl

theorem value_manifestOf (file : Option TextFile) :
    (manifestOf file).value = (file.map fun file => Manifest.ofText file.content).getD {} := by
  cases file <;> rfl

theorem value_descriptionOf (file : Option TextFile) :
    (descriptionOf file).value = file.bind TextFile.description? := by
  unfold descriptionOf TextFile.description?
  split
  · next h => rw [h]; rfl
  · next description h => rw [h]; rfl

/-! ## The profile -/

def Workspace.profileWith (w : Workspace) (name : String) (inventory : Inventory) : Profile where
  name
  description := (inventory.readme.bind w.textFile?).bind TextFile.description?
  controllers := (inventory.controllers.filterMap w.textFile?).filterMap fun file =>
    Controller.ofText? file.stem file.content
  manifest := ((inventory.manifest.bind w.textFile?).map fun file =>
    Manifest.ofText file.content).getD {}
  requestFile := inventory.requestFile.bind fun path => path.fileName?.map Text.display
  mainClass := inventory.applications.head?.bind fun path => path.stem?.map Text.display
  configFiles := inventory.configFiles

theorem Workspace.value_profileOf (w : Workspace) (name : String) (inventory : Inventory) :
    (w.profileOf name inventory).value = w.profileWith name inventory := by
  rw [profileWith, ← value_readOptional, ← value_readOptional, ← value_descriptionOf,
    ← value_readFiles, ← value_controllersOf, ← value_manifestOf]
  rfl

/-- The name under which a module is profiled. -/
def Workspace.profileName (w : Workspace) (root : Path) : String :=
  (w.moduleName? root).getD root.display

/-- A module at a path that leads to a directory has a profile, made from what a walk meets. -/
theorem Workspace.value_profile {w : Workspace} {root : Path} {visits : List Visit}
    (h : w.walk? root = some visits) :
    (w.profile root).value =
      .ok (w.profileWith (w.profileName root) (w.inventoryOf root visits)) := by
  rw [← value_profileOf]
  have htake : (w.takeInventory root).value = .ok (w.inventoryOf root visits) := by
    rw [takeInventory, h]
    rfl
  rw [profile, Logged.value_bind, Logged.value_bind, htake]
  rfl

/-!
## The warnings of an analysis

Nothing that keeps a module from being known in full goes unsaid: an analysis warns of each
directory that its walk could not open and of each file that it could not read, in the order in
which it comes to them, and of nothing else (`warnings_profile`).
-/

def warningsAmong (events : List Event) : List Event := events.filter (·.level = .warn)

@[simp] theorem warningsAmong_nil : warningsAmong [] = [] := rfl

@[simp] theorem warningsAmong_append (events more : List Event) :
    warningsAmong (events ++ more) = warningsAmong events ++ warningsAmong more :=
  List.filter_append ..

/-- Nothing is warned of where all events are of other levels. -/
theorem warningsAmong_eq_nil {events : List Event} (h : ∀ e ∈ events, e.level ≠ .warn) :
    warningsAmong events = [] := by
  rw [warningsAmong, List.filter_eq_nil_iff]
  simpa using h

def Warning.event (warning : Warning) : Event := .directoryUnopened warning.path warning.fault

/-- The warning about a file that cannot be read. -/
def Workspace.skipped? (w : Workspace) (path : Path) : Option Event :=
  match w.readText path with
  | .ok _ => none
  | .error fault => some (.fileSkipped (.fileRead path fault))

/-!
### Reading files

Here is where warnings come from: one for each file that cannot be read, in the order of the files.
-/

namespace Workspace

variable (w : Workspace)

theorem warnings_readOptional (path : Option Path) :
    warningsAmong (w.readOptional path).events = path.toList.filterMap w.skipped? := by
  cases path with
  | none => rfl
  | some path =>
      rw [readOptional, Logged.events_bind, warningsAmong_append, readOne, Logged.value_bind,
        Logged.value_pure, textFile, Option.toList_some, List.filterMap_cons, skipped?]
      cases w.readText path <;> rfl

theorem warnings_readEach (paths : List Path) :
    warningsAmong (w.readEach paths).events = paths.filterMap w.skipped? := by
  induction paths with
  | nil => rfl
  | cons path rest ih =>
      have hfirst := w.warnings_readOptional (some path)
      rw [Option.toList_some] at hfirst
      simp only [readEach, Logged.events_bind, Logged.events_pure, warningsAmong_append, hfirst, ih,
        List.append_nil]
      rw [← List.filterMap_append, List.singleton_append]

theorem warnings_readFiles (paths : List Path) :
    warningsAmong (w.readFiles paths).events = paths.filterMap w.skipped? := by
  simp only [readFiles, Logged.events_bind, warningsAmong_append, warnings_readEach]
  simp [warningsAmong, Event.level]

end Workspace

/-!
### What is read from files

What is found in a text is logged on lower levels.
-/

theorem warnings_controllersOf (files : List TextFile) :
    warningsAmong (controllersOf files).events = [] := by
  induction files with
  | nil => rfl
  | cons file rest ih =>
      -- What a file yields is told at lower levels.
      have hfile : warningsAmong (controllerOf file).events = [] := by
        rw [controllerOf, controllerNamed]
        split
        · rfl
        · apply warningsAmong_eq_nil
          intro e he
          simp only [Logged.events_bind, Logged.events_logAll, Logged.events_pure,
            List.append_nil, List.mem_map] at he
          obtain ⟨finding, -, rfl⟩ := he
          cases finding <;> simp [Controller.Finding.event, Event.level]
      simp [controllersOf, hfile, ih]

theorem warnings_manifestOf (file : Option TextFile) :
    warningsAmong (manifestOf file).events = [] := by
  cases file <;> rfl

theorem warnings_descriptionOf (file : Option TextFile) :
    warningsAmong (descriptionOf file).events = [] := by
  unfold descriptionOf
  split <;> rfl

/-!
### The analysis

The events of one step after another are the events of both.
-/

namespace Workspace

/-- The files are read in the order README, controllers, manifest. -/
theorem warnings_profileOf (w : Workspace) (name : String) (inventory : Inventory) :
    warningsAmong (w.profileOf name inventory).events =
      (inventory.readme.toList ++ inventory.controllers ++ inventory.manifest.toList).filterMap
        w.skipped? := by
  simp only [profileOf, Logged.events_bind, warningsAmong_append, warnings_readOptional,
    warnings_descriptionOf, warnings_readFiles, warnings_controllersOf, warnings_manifestOf,
    Logged.events_pure, warningsAmong_nil]
  simp

/-- On a walk each directory is warned of that could not be opened. -/
theorem warnings_filterMap_event? (visits : List Visit) :
    warningsAmong (visits.filterMap Visit.event?) =
      (visits.filterMap Visit.warning?).map Warning.event := by
  induction visits with
  | nil => rfl
  | cons visit visits ih =>
      rw [List.filterMap_cons, List.filterMap_cons]
      cases visit with
      | file path name depth =>
          simp only [Visit.event?, Visit.warning?, ← ih]
          -- Files are found without a warning, whatever they are to the module.
          cases FileKind.ofName name <;> rfl
      | unopened path fault =>
          show Warning.event { path, fault } :: warningsAmong _ = _
          rw [ih]
          rfl

theorem warnings_takeInventory {w : Workspace} {root : Path} {inventory : Inventory}
    (h : (w.takeInventory root).value = .ok inventory) :
    warningsAmong (w.takeInventory root).events = inventory.warnings.map Warning.event := by
  rw [takeInventory] at h ⊢
  split at h
  · cases h
  · next visits hwalk =>
    cases h
    simp only [Logged.events_bind, Logged.events_logAll, Logged.events_log, Logged.events_pure,
      warningsAmong_append, warnings_filterMap_event?]
    exact List.append_nil _

/-- The directories that could not be opened come first, and then the files in the order in which
they are read. -/
theorem warnings_profile {w : Workspace} {root : Path} {inventory : Inventory}
    (h : (w.takeInventory root).value = .ok inventory) :
    warningsAmong (w.profile root).events = inventory.warnings.map Warning.event ++
      (inventory.readme.toList ++ inventory.controllers ++ inventory.manifest.toList).filterMap
        w.skipped? := by
  rw [profile, Logged.events_bind, Logged.events_bind, h]
  simp only [Logged.events_bind, Logged.events_pure, warningsAmong_append, List.append_nil,
    warnings_takeInventory h, warnings_profileOf]
  rfl

end Workspace

end ModuleReadme
