import ModuleReadme.CommandLine.Options
import ModuleReadme.CommandLine.Run
import ModuleReadme.Log.Record
import ModuleReadme.Text.Line

/-!
# The program

The program reads its command line, sets up the log, runs and reports a failure. The log filter
comes from the environment; `-v` overrules it for components that it does not name.
-/

namespace ModuleReadme

/-!
## Help

The texts that the command line answers with when it is asked for help or for the version, or when
it is used in a wrong way.
-/

def textOfLines (lines : List String) : String := String.join (lines.map (· ++ "\n"))

def usageText : String := textOfLines
  ["Usage: readme-from-source <MODULE_PATH> [OUTPUT_FILE]",
   "Example: readme-from-source basic/chat",
   "Example: readme-from-source basic/chat custom_README.md"]

def versionText : String := textOfLines ["readme-from-source 0.1.0"]

def briefHelp : String := textOfLines
  ["Generates README documentation for Spring Boot modules by scanning controllers and pom.xml",
   "",
   "Usage: readme-from-source [OPTIONS] <MODULE_PATH> [OUTPUT_FILE]",
   "",
   "Arguments:",
   "  <MODULE_PATH>  Path to the module directory",
   "  [OUTPUT_FILE]  Output file path (defaults to README.md inside the module for markdown, stdout for json)",
   "",
   "Options:",
   "  -f, --format <OUTPUT_FORMAT>  Output format (markdown or json) [default: markdown] [possible values: markdown, json]",
   "      --base-url <URL>          Base URL used in example requests [default: http://localhost:8080]",
   "      --declared-methods        Show each endpoint's declared HTTP method instead of GET",
   "  -v, --verbose                 Enable verbose output",
   "  -h, --help                    Print help (see more with '--help')",
   "  -V, --version                 Print version"]

def fullHelp : String := textOfLines
  ["Generates README documentation for Spring Boot modules by scanning controllers and pom.xml",
   "",
   "Usage: readme-from-source [OPTIONS] <MODULE_PATH> [OUTPUT_FILE]",
   "",
   "Arguments:",
   "  <MODULE_PATH>",
   "          Path to the module directory",
   "",
   "  [OUTPUT_FILE]",
   "          Output file path (defaults to README.md inside the module for markdown, stdout for json)",
   "",
   "Options:",
   "  -f, --format <OUTPUT_FORMAT>",
   "          Output format (markdown or json)",
   "",
   "          Possible values:",
   "          - markdown: Rendered README",
   "          - json:     Extracted module information",
   "          ",
   "          [default: markdown]",
   "",
   "      --base-url <URL>",
   "          Base URL used in example requests",
   "          ",
   "          [default: http://localhost:8080]",
   "",
   "      --declared-methods",
   "          Show each endpoint's declared HTTP method instead of GET",
   "",
   "  -v, --verbose",
   "          Enable verbose output",
   "",
   "  -h, --help",
   "          Print help (see a summary with '-h')",
   "",
   "  -V, --version",
   "          Print version"]

/-! ## Runs from outside

What a run logs does not depend on the environment: all events are collected, and the filter picks
those that are shown when the run is over. A command line that is refused logs nothing.
-/

/-- The level that the log is set to whatever the environment says: `debug` if the user wants to see
more, `info` if the environment is silent, and none otherwise. -/
def levelOverride (verbose environmentSpeaks : Bool) : Option Level :=
  if verbose then some .debug else if environmentSpeaks then none else some .info

def logFilter (verbose : Bool) (environment : Option String) : Filter :=
  let filter := Filter.ofText (environment.getD "")
  -- It takes the place of the directive that the environment has for everything.
  match levelOverride verbose environment.isSome with
  | some level => filter.insert { target := none, rank := level.rank }
  | none => filter

/-- What the program leaves behind when it ends. -/
structure Exit where
  status : Nat
  /-- What was written to standard output. -/
  output : String
  /-- The events that the filter let through. -/
  events : List Event
  /-- The report of a failure. -/
  report : Option String

def Refusal.exit : Refusal → Exit
  | .help full =>
    { status := 0, output := if full then fullHelp else briefHelp, events := [], report := none }
  | .version => { status := 0, output := versionText, events := [], report := none }
  | _ => { status := 1, output := usageText, events := [], report := none }

/-- A cause as it is reported behind a label, under which all of its lines begin. -/
def causeItem (label cause : String) : String :=
  label ++ String.ofList (Text.hanging label.length cause.toList) ++ "\n"

/-- The report of a failure and its cause. Several causes are numbered. -/
def Failure.report (f : Failure) : String :=
  "Error: " ++ f.message ++ "\n" ++
    match f.causes with
    | [] => ""
    | [cause] => "\nCaused by:\n" ++ causeItem "    " cause
    | causes => "\nCaused by:\n" ++
        String.join (causes.mapIdx fun i => causeItem ("    " ++ toString i ++ ": "))

/-- All events of a run that is not refused, and its outcome. -/
def Workspace.loggedRun (w : Workspace) (o : Options) (t : Timestamp) : Logged Outcome := do
  .log .started
  let outcome ← w.checkedRun o t
  match outcome.result with
  -- A failure is reported, and not logged.
  | .ok () => .log .finished
  | .error _ => pure ()
  return outcome

/-- The program: the workspace after it and what it leaves behind. -/
def Workspace.program (w : Workspace) (arguments : List String) (environment : Option String)
    (t : Timestamp) : Workspace × Exit :=
  match Options.ofArguments arguments with
  | .error refusal => (w, refusal.exit)
  | .ok o =>
    let run := w.loggedRun o t
    let events := (logFilter o.verbose environment).apply run.events
    match run.value.result with
    | .ok () =>
      (run.value.workspace, { status := 0, output := run.value.output, events, report := none })
    | .error failure =>
      (run.value.workspace,
        { status := 1, output := run.value.output, events, report := some failure.report })

end ModuleReadme
