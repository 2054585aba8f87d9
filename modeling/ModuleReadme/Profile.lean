import ModuleReadme.Controller.Survey
import ModuleReadme.Files.TextFile
import ModuleReadme.Inventory
import ModuleReadme.Manifest
import ModuleReadme.Text.Line

/-!
# Profiles

A profile is everything that is known about a module. It is put together from the files of the
inventory; a file that cannot be read contributes nothing.
-/

namespace ModuleReadme.Readme

/-!
## The description in a README

The description of a module is kept when its README is made anew. It is taken from the present
README: the first line near the top that is neither blank nor a heading, without the full stop that
ends it. What is looked at and what is taken are not the same: whether a line is a heading is told
by its first character, and the line is trimmed after that.
-/

open Text

def titleLines : Nat := 2

/-- How many of the lines below the title are looked at. -/
def descriptionReach : Nat := 8

/-- Lines that can describe a module: not blank and no heading. -/
def isDescriptive (line : Line) : Bool := !(trim line).isEmpty && line.head? != some '#'

/-- The text of a line without blanks around it and without full stops at its end. -/
def withoutFullStop (line : Line) : List Char := dropEndWhile (· == '。') (trim line)

def descriptionIn? (readme : List Char) : Option (List Char) :=
  ((((lines readme).drop titleLines).take descriptionReach).find? isDescriptive).bind fun line =>
    if (withoutFullStop line).isEmpty then none else some (withoutFullStop line)

end ModuleReadme.Readme

namespace ModuleReadme

/-! ## What is known about a module

All fields but the name may be empty, since each of them comes from a file that may be missing.
-/

/-- Everything that is known about a module. -/
structure Profile where
  name : String
  /-- The description that the present README gives. -/
  description : Option String := none
  controllers : List Controller := []
  manifest : Manifest := {}
  /-- The name of the file with example requests. -/
  requestFile : Option String := none
  /-- The name of the application class. -/
  mainClass : Option String := none
  configFiles : List Path := []
  deriving DecidableEq, Repr

namespace Profile

def hasEndpoints (p : Profile) : Bool := p.controllers.any (!·.endpoints.isEmpty)

def endpointCount (p : Profile) : Nat := (p.controllers.flatMap (·.endpoints)).length

end Profile

/-! ### Reading the files of a module

The parts of a profile are read one after the other: description, controllers and manifest. What is
logged comes in this order, and no part depends on what another one came to.
-/

def Controller.Finding.event (name : String) : Controller.Finding → Event
  | .endpoint e => .endpointFound name e
  | .unhandled route => .handlerMissing name route

def controllerNamed (name text : String) : Logged (Option Controller) :=
  match Controller.survey? text.toList with
  | none => do
    .log (.notAController name)
    return none
  | some survey => do
    .logAll (survey.findings.map (·.event name))
    return some (survey.controller name)

theorem value_controllerNamed (name text : String) :
    (controllerNamed name text).value = Controller.ofText? name text := by
  unfold controllerNamed Controller.ofText?
  cases Controller.survey? text.toList <;> rfl

/-- The controller in a file, named after the file. -/
def controllerOf (file : TextFile) : Logged (Option Controller) :=
  controllerNamed file.stem file.content

def controllersOf : List TextFile → Logged (List Controller)
  | [] => return []
  | file :: rest => do
    let controller ← controllerOf file
    let controllers ← controllersOf rest
    return controller.toList ++ controllers

def manifestOfText (text : String) : Logged Manifest := do
  let manifest := Manifest.ofText text
  .log (.manifestRead manifest.artifactId manifest.dependencies.length)
  return manifest

/-- The manifest in a file. Without a file nothing is known. -/
def manifestOf : Option TextFile → Logged Manifest
  | none => return {}
  | some file => do
    .log (.readingManifest file.path)
    manifestOfText file.content

def descriptionOf (readme : Option TextFile) : Logged (Option String) :=
  match readme.bind fun file => (Readme.descriptionIn? file.content.toList).map String.ofList with
  | none => return none
  | some description => do
    .log (.descriptionReused description)
    return some description

/-- The profile of a module of this name with this inventory. -/
def Workspace.profileOf (w : Workspace) (name : String) (inventory : Inventory) :
    Logged Profile := do
  let readme ← w.readOptional inventory.readme
  let description ← descriptionOf readme
  let sources ← w.readFiles inventory.controllers
  let controllers ← controllersOf sources
  let manifestFile ← w.readOptional inventory.manifest
  let manifest ← manifestOf manifestFile
  return {
    name
    description
    controllers
    manifest
    requestFile := inventory.requestFile.bind fun path => path.fileName?.map Text.display
    mainClass := inventory.applications.head?.bind fun path => path.stem?.map Text.display
    configFiles := inventory.configFiles }

def Workspace.profile (w : Workspace) (root : Path) : Logged (Except Error Profile) := do
  .log (.analyzing root)
  match ← w.takeInventory root with
  | .error error => return .error error
  | .ok inventory =>
    -- A path that cannot be spelled out is its own name.
    let profile ← w.profileOf ((w.moduleName? root).getD root.display) inventory
    return .ok profile

end ModuleReadme
