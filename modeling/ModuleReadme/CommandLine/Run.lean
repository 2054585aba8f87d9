import ModuleReadme.Files.TextFile
import ModuleReadme.Json
import ModuleReadme.Readme.Document

/-!
# Running

A run profiles a module and delivers its README or the dump of its profile. Only the delivery
changes the workspace.
-/

namespace ModuleReadme

/-! ### Failures

The message of a failure says what could not be done, and its causes say why, down to what the
system answered.
-/

/-- Why a run fails. -/
inductive Failure where
  | moduleMissing (path : Path)
  | moduleNoDirectory (path : Path)
  | noProfile (path : Path) (error : Error)
  | failed (error : Error)
  deriving DecidableEq, Repr

namespace Failure

def message : Failure → String
  | moduleMissing path => "Module path does not exist: " ++ path.display
  | moduleNoDirectory path => "Module path is not a directory: " ++ path.display
  | noProfile path _ => "Failed to analyze module: " ++ path.display
  | failed error => error.message

/-- What caused the failure, the nearest cause first. -/
def causes : Failure → List String
  | moduleMissing _ | moduleNoDirectory _ => []
  | noProfile _ error => error.message :: error.fault?.toList.map Fault.message
  | failed error => error.fault?.toList.map Fault.message

end Failure

/-! ### Checking the options

Nothing is done for a module that is missing. What the result will be and where it goes is logged
before the module is looked at any closer.
-/

def Options.events (o : Options) : List Event :=
  [.modulePath o.modulePath, .outputFormat o.format,
   match o.outputPath, o.format with
   | some output, _ => .outputFile output
   | none, .markdown => .outputFile o.readmePath
   | none, .json => .outputToStdout]

def Workspace.check (w : Workspace) (o : Options) : Logged (Except Failure Unit) := do
  .log (.argumentsParsed o)
  if !w.reaches o.modulePath then return .error (.moduleMissing o.modulePath)
  else if !w.isDirectory o.modulePath then return .error (.moduleNoDirectory o.modulePath)
  else
    .logAll o.events
    return .ok ()

/-! ### The result

A README always goes to a file, and a dump goes to a file only if one is named.
-/

/-- A result and the file that it goes to. Without a file it goes to standard output. -/
structure Delivery where
  text : String
  destination : Option Path
  deriving DecidableEq, Repr

def Profile.events (p : Profile) : List Event :=
  [.totals p.controllers.length p.endpointCount]
    ++ p.controllers.map (fun c => .controllerTotal c.name c.endpoints.length)
    ++ p.mainClass.toList.map .mainClass
    ++ p.configFiles.map .configFile
    ++ [.manifestTotal p.manifest.artifactId p.manifest.dependencies.length]

/-- The result for a profile: the README, or the dump of the profile. -/
def Profile.deliver (p : Profile) (o : Options) (t : Timestamp) :
    Logged (Except Failure Delivery) :=
  match o.format with
  | .markdown => do
    let text ← Readme.render o.appearance t p
    return .ok { text, destination := some o.readmePath }
  | .json => do
    match ← p.serialize with
    | .error error => return .error (.failed error)
    | .ok text => return .ok { text, destination := o.outputPath }

def Workspace.result (w : Workspace) (o : Options) (t : Timestamp) :
    Logged (Except Failure Delivery) := do
  .log (.generating o.modulePath)
  match ← w.profile o.modulePath with
  | .error error => return .error (.noProfile o.modulePath error)
  | .ok profile =>
    .logAll profile.events
    profile.deliver o t

/-! ### The run

A run ends with the first failure. Standard output gets either the dump itself or a message about
the file that was written, and stays empty after a failure.
-/

structure Outcome where
  workspace : Workspace
  /-- What was written to standard output. -/
  output : String
  result : Except Failure Unit

def Format.successMessage (path : Path) : Format → String
  | .markdown => "README.md generated successfully: " ++ path.display ++ "\n"
  | .json => "Module info written successfully: " ++ path.display ++ "\n"

def Workspace.deliver (w : Workspace) (format : Format) (d : Delivery) : Logged Outcome :=
  match d.destination with
  | none => return { workspace := w, output := d.text ++ "\n", result := .ok () }
  | some path => do
    .log (.writingOutput path)
    match ← w.saveText path d.text with
    | (w₁, .ok ()) =>
      return { workspace := w₁, output := format.successMessage path, result := .ok () }
    | (w₁, .error error) =>
      -- Directories on the way to the file may have been made, so `w₁` need not be `w`.
      return { workspace := w₁, output := "", result := .error (.failed error) }

def Workspace.run (w : Workspace) (o : Options) (t : Timestamp) : Logged Outcome := do
  match ← w.result o t with
  | .error failure => return { workspace := w, output := "", result := .error failure }
  | .ok delivery => w.deliver o.format delivery

/-- Checks the options and runs. -/
def Workspace.checkedRun (w : Workspace) (o : Options) (t : Timestamp) : Logged Outcome := do
  match ← w.check o with
  | .error failure => return { workspace := w, output := "", result := .error failure }
  | .ok () => w.run o t

end ModuleReadme
