import ModuleReadme.Files.Walk
import ModuleReadme.Log.Event

/-!
# Inventories

An inventory lists the files of a module that its README is made from. Controllers, application
classes and configuration files are found anywhere below the root of the module by a walk; of the
manifests the one nearest to the root is taken. The present README and the file with example
requests, which is named after the module, are only looked for in the root itself.
-/

namespace ModuleReadme

/-! ## Contents -/

/-- A directory that could not be opened. -/
structure Warning where
  path : Path
  fault : Fault
  deriving DecidableEq, Repr

def Warning.message (warning : Warning) : String := unopenedMessage warning.path warning.fault

structure Inventory where
  controllers : List Path := []
  applications : List Path := []
  manifest : Option Path := none
  readme : Option Path := none
  configFiles : List Path := []
  requestFile : Option Path := none
  warnings : List Warning := []
  deriving DecidableEq, Repr

/-! ## Kinds of files

What a file is to a module is told by its name alone. The endings `Controller.java` and
`Application.java` exclude one another, and none of the other names has one of them, so the order of
the questions does not matter.
-/

/-- What a file is to a module. -/
inductive FileKind where
  | controller
  | application
  | manifest
  | config
  | other
  deriving DecidableEq, Repr

def configNames : List FileName :=
  [Text.encode "application.yml", Text.encode "application.yaml",
   Text.encode "application.properties"]

def FileKind.ofName (name : FileName) : FileKind :=
  if (Text.encode "Controller.java").isSuffixOf name then .controller
  else if (Text.encode "Application.java").isSuffixOf name then .application
  else if name = Text.encode "pom.xml" then .manifest
  else if configNames.contains name then .config
  else .other

/-! ## From a walk to an inventory

Every part of an inventory is picked from what a walk met, one visit at a time. The order of the
walk is the order of the lists.
-/

namespace Visit

def pathOf? (kind : FileKind) : Visit → Option Path
  | file path name _ => if FileKind.ofName name = kind then some path else none
  | unopened _ _ => none

def manifest? : Visit → Option (Path × Nat)
  | file path name depth => if FileKind.ofName name = .manifest then some (path, depth) else none
  | unopened _ _ => none

def warning? : Visit → Option Warning
  | file _ _ _ => none
  | unopened path fault => some { path, fault }

def event? : Visit → Option Event
  | file path name _ =>
    match FileKind.ofName name with
    | .controller => some (.controllerFound path)
    | .application => some (.applicationFound path)
    | _ => none
  | unopened path fault => some (.directoryUnopened path fault)

end Visit

/-- The first of the paths with the smallest depth. -/
def shallowest? : List (Path × Nat) → Option (Path × Nat)
  | [] => none
  | first :: rest =>
    match shallowest? rest with
    -- Of paths at the same depth the one that was met first is kept.
    | some best => if best.2 < first.2 then some best else some first
    | none => some first

namespace Inventory

/-- The inventory of the files met on a walk. -/
def ofVisits (visits : List Visit) : Inventory where
  controllers := visits.filterMap (Visit.pathOf? .controller)
  applications := visits.filterMap (Visit.pathOf? .application)
  manifest := (shallowest? (visits.filterMap Visit.manifest?)).map (·.1)
  configFiles := visits.filterMap (Visit.pathOf? .config)
  warnings := visits.filterMap Visit.warning?

end Inventory

namespace Workspace

/-! ## Taking an inventory

The name of a module is that of the place that its path leads to, so `.` and a link to the module
have the same name as the module itself. The README and the file with example requests are asked
for by name and not looked for among what was met.
-/

/-- The name of a module: the name of its root directory. -/
def moduleName? (w : Workspace) (root : Path) : Option String := (w.nameOf? root).map Text.display

/-- The file with example requests that belongs to a module of this name. -/
def requestFileName (name : String) : Path := Path.ofString (name ++ ".http")

def ifFile (w : Workspace) (path : Path) : Option Path :=
  if w.isFile path then some path else none

/-- The inventory of the module at `root`, given what a walk met there. -/
def inventoryOf (w : Workspace) (root : Path) (visits : List Visit) : Inventory :=
  { Inventory.ofVisits visits with
    readme := w.ifFile (root.join readmeName)
    requestFile :=
      (w.moduleName? root).bind fun name => w.ifFile (root.join (requestFileName name)) }

def takeInventory (w : Workspace) (root : Path) : Logged (Except Error Inventory) :=
  match w.walk? root with
  | none => return .error (.noModuleAt root)
  | some visits => do
    .logAll (visits.filterMap Visit.event?)
    let inventory := w.inventoryOf root visits
    .log (.scanDone inventory.controllers.length inventory.configFiles.length
      inventory.manifest.isSome)
    return .ok inventory

end Workspace

end ModuleReadme
