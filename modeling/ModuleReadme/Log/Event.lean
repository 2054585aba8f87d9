import ModuleReadme.CommandLine.Options
import ModuleReadme.Endpoint
import ModuleReadme.Error
import ModuleReadme.Text.Quoted

/-!
# Log events

The work is logged as a list of events. An event says what happened; its level, the component that
it comes from and its message are functions of it. A result that was logged carries its events
along.
-/

namespace ModuleReadme

/-! ## Events -/

inductive Level where
  | error
  | warn
  | info
  | debug
  | trace
  deriving DecidableEq, Repr

namespace Level

/-- A greater rank means that it matters less. -/
def rank : Level → Nat
  | error => 1
  | warn => 2
  | info => 3
  | debug => 4
  | trace => 5

/-- The level as it is written in front of a message. -/
def name : Level → String
  | error => "ERROR"
  | warn => "WARN"
  | info => "INFO"
  | debug => "DEBUG"
  | trace => "TRACE"

end Level

/-!
### What happens

There is one constructor for each thing that is worth a word, with what its message says of it.
-/

inductive Event where
  | started
  | finished
  | argumentsParsed (options : Options)
  | modulePath (path : Path)
  | outputFormat (format : Format)
  | outputFile (path : Path)
  | outputToStdout
  | generating (path : Path)
  | totals (controllers endpoints : Nat)
  | controllerTotal (name : String) (endpoints : Nat)
  | mainClass (name : String)
  | configFile (path : Path)
  | manifestTotal (artifactId : Option String) (dependencies : Nat)
  | writingOutput (path : Path)
  | analyzing (path : Path)
  | descriptionReused (description : String)
  | readingFile (path : Path)
  | readingFiles (count : Nat)
  | readingDone (succeeded failed : Nat)
  | fileSkipped (error : Error)
  | controllerFound (path : Path)
  | applicationFound (path : Path)
  | directoryUnopened (path : Path) (fault : Fault)
  | scanDone (controllers configFiles : Nat) (hasManifest : Bool)
  | notAController (name : String)
  | handlerMissing (name route : String)
  | endpointFound (name : String) (endpoint : Endpoint)
  | readingManifest (path : Path)
  | manifestRead (artifactId : Option String) (dependencies : Nat)
  | rendering (name : String) (controllers : Nat)
  | serializing
  | writingFile (path : Path)
  | fileWritten (bytes : Nat) (path : Path)
  deriving DecidableEq, Repr

/-! ### Parts of messages -/

def unopenedMessage (path : Path) (fault : Fault) : String :=
  "Failed to access path: IO error for operation on " ++ path.display ++ ": " ++ fault.message

def Options.summary (o : Options) : String :=
  "CliArgs \x7b module_path: " ++ Text.quotedPath o.modulePath.display
    ++ ", output_path: " ++ Text.quotedOption (o.outputPath.map fun p => Text.quotedPath p.display)
    ++ ", output_format: " ++ o.format.name
    ++ ", base_url: " ++ Text.quoted o.appearance.baseUrl
    ++ ", declared_methods: " ++ toString o.appearance.declaredMethods
    ++ ", verbose: " ++ toString o.verbose ++ " \x7d"

/-!
### Level, component and message

Only what may leave the result incomplete is a warning. No event is an error: a failure ends the run
and is reported by itself.
-/

namespace Event

def level : Event → Level
  | fileSkipped _ | directoryUnopened _ _ => .warn
  | started | finished | modulePath _ | outputFormat _ | outputFile _ | outputToStdout
  | generating _ | totals _ _ | controllerTotal _ _ | mainClass _ | configFile _
  | manifestTotal _ _ | writingOutput _ | analyzing _ => .info
  | _ => .debug

/-- The component that an event comes from, by the name that log directives select it with. -/
def target : Event → String
  | started | finished => "readme_from_source"
  | argumentsParsed _ | modulePath _ | outputFormat _ | outputFile _ | outputToStdout
  | generating _ | totals _ _ | controllerTotal _ _ | mainClass _ | configFile _
  | manifestTotal _ _ | writingOutput _ => "readme_from_source::cli"
  | analyzing _ | descriptionReused _ => "readme_from_source::module"
  | readingFile _ | readingFiles _ | readingDone _ _ | fileSkipped _ =>
    "readme_from_source::source"
  | controllerFound _ | applicationFound _ | directoryUnopened _ _ | scanDone _ _ _ =>
    "readme_from_source::scanner"
  | notAController _ | handlerMissing _ _ | endpointFound _ _ =>
    "readme_from_source::extractor::controller"
  | readingManifest _ | manifestRead _ _ => "readme_from_source::extractor::manifest"
  | rendering _ _ => "readme_from_source::renderer"
  | serializing | writingFile _ | fileWritten _ _ => "readme_from_source::writer"

def message : Event → String
  | started => "README generator starting..."
  | finished => "README generation completed successfully"
  | argumentsParsed options => "Parsed arguments: " ++ options.summary
  | modulePath path => "Module path: " ++ path.display
  | outputFormat format => "Output format: " ++ format.name
  | outputFile path => "Output file: " ++ path.display
  | outputToStdout => "Output: stdout"
  | generating path => "Generating README for module: " ++ path.display
  | totals controllers endpoints =>
    "Found " ++ toString controllers ++ " controllers with " ++ toString endpoints ++ " endpoints"
  | controllerTotal name endpoints => "  - " ++ name ++ ": " ++ toString endpoints ++ " methods"
  | mainClass name => "Main class: " ++ name
  | configFile path => "Config file: " ++ path.display
  | manifestTotal artifactId dependencies =>
    "Manifest: " ++ artifactId.getD "<none>" ++ " (" ++ toString dependencies ++ " dependencies)"
  | writingOutput path => "Writing output to: " ++ path.display
  | analyzing path => "Analyzing module: " ++ path.display
  | descriptionReused description => "Reusing README description: " ++ description
  | readingFile path => "Reading file: " ++ path.display
  | readingFiles count => "Reading " ++ toString count ++ " files"
  | readingDone succeeded failed =>
    "Reading complete: " ++ toString succeeded ++ " succeeded, " ++ toString failed ++ " failed"
  | fileSkipped error => "Skipping unreadable file: " ++ error.message
  | controllerFound path => "Found controller: " ++ path.display
  | applicationFound path => "Found application class: " ++ path.display
  | directoryUnopened path fault => unopenedMessage path fault
  | scanDone controllers configFiles hasManifest =>
    "Scan complete: " ++ toString controllers ++ " controllers, " ++ toString configFiles
      ++ " config files, manifest: " ++ toString hasManifest
  | notAController name => name ++ " has no controller marker, skipping"
  | handlerMissing name route =>
    name ++ ": no handler signature within 10 lines of mapping " ++ route ++ ", dropping"
  | endpointFound name endpoint =>
    name ++ ": " ++ endpoint.method.name ++ " " ++ endpoint.path ++ " -> " ++ endpoint.handler
  | readingManifest path => "Extracting manifest: " ++ path.display
  | manifestRead artifactId dependencies =>
    "Manifest artifactId: " ++ Text.quotedOption (artifactId.map Text.quoted) ++ ", "
      ++ toString dependencies ++ " dependencies"
  | rendering name controllers =>
    "Rendering README for " ++ name ++ " (" ++ toString controllers ++ " controllers)"
  | serializing => "Serializing module info to JSON"
  | writingFile path => "Writing content to file: " ++ path.display
  | fileWritten bytes path =>
    "Successfully wrote " ++ toString bytes ++ " bytes to " ++ path.display

/-- The event as a line of a log. -/
def line (e : Event) : String := e.level.name ++ " " ++ e.message

end Event

/-!
## Results with a log

A `Logged` result comes with the events on the way to it. Results are put together one after the
other, and so are their events; the value of a result never depends on what was logged.
-/

/-- A value and the events on the way to it, in order. -/
structure Logged (α : Type) where
  value : α
  events : List Event := []

namespace Logged

instance : Monad Logged where
  pure a := { value := a }
  -- The events of the first result come first.
  bind x f := { value := (f x.value).value, events := x.events ++ (f x.value).events }

@[simp] theorem value_pure (a : α) : (pure a : Logged α).value = a := rfl

@[simp] theorem events_pure (a : α) : (pure a : Logged α).events = [] := rfl

@[simp] theorem value_bind (x : Logged α) (f : α → Logged β) :
    (x >>= f).value = (f x.value).value := rfl

@[simp] theorem events_bind (x : Logged α) (f : α → Logged β) :
    (x >>= f).events = x.events ++ (f x.value).events := rfl

/-! ### Logging -/

def log (event : Event) : Logged Unit := { value := (), events := [event] }

def logAll (events : List Event) : Logged Unit := { value := (), events }

@[simp] theorem events_log (event : Event) : (log event).events = [event] := rfl

@[simp] theorem events_logAll (events : List Event) : (logAll events).events = events := rfl

end Logged

end ModuleReadme
