import ModuleReadme.Files.Path

/-!
# Options

What the command line asks for, and how it is read: arguments go from left to right into a state,
and the options come out of the last one.
-/

namespace ModuleReadme

/-!
## What is asked for

The module, where the result goes, its format, and how example requests are shown.
-/

inductive Format where
  | markdown
  | json
  deriving DecidableEq, Repr

def Format.option : Format → String
  | .markdown => "markdown"
  | .json => "json"

/-- The format as it is named in log records. -/
def Format.name : Format → String
  | .markdown => "Markdown"
  | .json => "Json"

/-- What changes the text of a README without changing what is known about the module. -/
structure Appearance where
  /-- What the URLs of example requests begin with. -/
  baseUrl : String := "http://localhost:8080"
  /-- Whether requests show the HTTP method of the endpoint, and not `GET` always. -/
  declaredMethods : Bool := false
  deriving DecidableEq, Repr

structure Options where
  modulePath : Path
  outputPath : Option Path := none
  format : Format := .markdown
  appearance : Appearance := {}
  verbose : Bool := false
  deriving DecidableEq, Repr

/-- The file in the root of a module that documents it. -/
def readmeName : Path := Path.ofString "README.md"

/-- Where a README goes: to the output path, or else into the module. -/
def Options.readmePath (o : Options) : Path := o.outputPath.getD (o.modulePath.join readmeName)

/-!
## Reading the command line

Arguments are read from left to right. A value that is an argument of its own, be it the value of
an option or a positional, is first kept as pending and is checked when the next argument has been
understood, or at the end; a value that is attached to its option is checked at once.
-/

/-- Why the command line asks for no run. -/
inductive Refusal where
  /-- The user asks for help, in full or in brief. -/
  | help (full : Bool)
  | version
  | missingModule
  | unknownArgument
  /-- An option is given twice. -/
  | givenTwice
  | invalidValue
  /-- A value is attached to an option that takes none. -/
  | needlessValue
  deriving DecidableEq, Repr

namespace Arguments

/-! ### What is read

A command line is made of switches, of options with a value, and of positionals. A `Slot` is what a
value can be for.
-/

inductive Slot where
  | modulePath
  | outputPath
  | format
  | baseUrl
  deriving DecidableEq, Repr

inductive Switch where
  | declaredMethods
  | verbose
  | fullHelp
  | briefHelp
  | version
  deriving DecidableEq, Repr

structure State where
  modulePath : Option String := none
  outputPath : Option String := none
  format : Option Format := none
  baseUrl : Option String := none
  declaredMethods : Bool := false
  verbose : Bool := false
  /-- How many positionals there were. -/
  positionals : Nat := 0
  /-- A value that has to be checked, or an option that waits for its value. -/
  pending : Option (Slot × Option String) := none
  /-- Whether everything that follows is positional. -/
  positionalOnly : Bool := false
  deriving DecidableEq, Repr

/-! ### Changing the state

Switches and options may be given once. For an option this is found out when its value is stored, so
the value is checked first if it is kept pending and the option comes again; a positional beyond the
second is refused before anything else is looked at.
-/

namespace State

def formatOf? (value : String) : Option Format :=
  [Format.markdown, .json].find? fun f => f.option == value

/-- Checks a value and puts it where it belongs. -/
def store (s : State) (slot : Slot) (value : String) : Except Refusal State :=
  match slot with
  | .modulePath =>
    if value = "" then .error .invalidValue else .ok { s with modulePath := some value }
  | .outputPath =>
    if value = "" then .error .invalidValue else .ok { s with outputPath := some value }
  | .format =>
    if s.format.isSome then .error .givenTwice
    else
      match formatOf? value with
      | some format => .ok { s with format := some format }
      | none => .error .invalidValue
  | .baseUrl =>
    if s.baseUrl.isSome then .error .givenTwice else .ok { s with baseUrl := some value }

def settle (s : State) : Except Refusal State :=
  match s.pending with
  | none => .ok s
  | some (_, none) => .error .invalidValue  -- an option is still waiting
  | some (slot, some value) => { s with pending := none }.store slot value

def switch (s : State) (which : Switch) : Except Refusal State := do
  let s ← s.settle
  match which with
  | .declaredMethods =>
    if s.declaredMethods then .error .givenTwice else .ok { s with declaredMethods := true }
  | .verbose => if s.verbose then .error .givenTwice else .ok { s with verbose := true }
  -- Help and version end the reading, whatever follows.
  | .fullHelp => .error (.help true)
  | .briefHelp => .error (.help false)
  | .version => .error .version

/-- Reads an option with the value that is attached to it, or waits for the value. -/
def option (s : State) (slot : Slot) (attached : Option String) : Except Refusal State := do
  let s ← s.settle
  match attached with
  | some value => s.store slot value
  | none => .ok { s with pending := some (slot, none) }

/-- Reads a positional: the module first, then the output. -/
def positional (s : State) (value : String) : Except Refusal State :=
  match s.positionals with
  | 0 => do
    let s ← s.settle
    .ok { s with positionals := 1, pending := some (.modulePath, some value) }
  | 1 => do
    let s ← s.settle
    .ok { s with positionals := 2, pending := some (.outputPath, some value) }
  | _ => .error .unknownArgument

end State

/-! ### Spellings

An option has a long name, a letter or both. Its value may be attached to the name by an equals
sign, may follow the letter in the same argument, with or without an equals sign, or may be the
next argument.
-/

def long? (name : List Char) : Option (Slot ⊕ Switch) :=
  match String.ofList name with
  | "format" => some (.inl .format)
  | "base-url" => some (.inl .baseUrl)
  | "declared-methods" => some (.inr .declaredMethods)
  | "verbose" => some (.inr .verbose)
  | "help" => some (.inr .fullHelp)
  | "version" => some (.inr .version)
  | _ => none

def short? : Char → Option (Slot ⊕ Switch)
  | 'f' => some (.inl .format)
  | 'v' => some (.inr .verbose)
  | 'h' => some (.inr .briefHelp)
  | 'V' => some (.inr .version)
  | _ => none

/-- The value behind the equals sign of a long option. -/
def attachedValue? : List Char → Option String
  | [] => none
  | _ :: value => some (String.ofList value)

/-- Reads what follows the two dashes of a long option. -/
def readLong (s : State) (body : List Char) : Except Refusal State :=
  match long? (body.takeWhile (· != '=')), attachedValue? (body.dropWhile (· != '=')) with
  | none, _ => .error .unknownArgument
  | some (.inl slot), attached => s.option slot attached
  -- `--verbose=` has a value too, if an empty one.
  | some (.inr _), some _ => .error .needlessValue
  | some (.inr which), none => s.switch which

/-- The value that follows the letter of an option in the same argument. An equals sign between
them is no part of it. -/
def joinedValue? : List Char → Option String
  | [] => none
  | '=' :: value => some (String.ofList value)
  | value => some (String.ofList value)

/-- Reads the letters that follow the dash of short options. A letter that takes a value takes all
that is left. -/
def readLetters (s : State) : List Char → Except Refusal State
  | [] => .ok s
  | c :: rest =>
    match short? c with
    | none => .error .unknownArgument
    | some (.inl slot) => s.option slot (joinedValue? rest)
    | some (.inr which) => do readLetters (← s.switch which) rest

/-! ### Arguments

Two dashes by themselves make everything behind them positional. A dash by itself is a value.
-/

/-- Reads an argument that is no option: the value that an option waits for, or a positional. -/
def readValue (s : State) (value : String) : Except Refusal State :=
  match s.pending with
  | some (slot, none) => .ok { s with pending := some (slot, some value) }
  | _ => s.positional value

def read (s : State) (argument : String) : Except Refusal State :=
  if s.positionalOnly then s.positional argument
  else
    match argument.toList with
    -- An option that waits for its value does not get it behind the two dashes.
    | ['-', '-'] => .ok { s with positionalOnly := true }
    | '-' :: '-' :: body => readLong s body
    | ['-'] => readValue s argument
    | '-' :: letters => readLetters s letters
    | _ => readValue s argument

def readAll : State → List String → Except Refusal State
  | s, [] => s.settle
  | s, argument :: rest => do readAll (← read s argument) rest

/-- The options that have been read. The module has to be among them. -/
def State.options (s : State) : Except Refusal Options :=
  match s.modulePath with
  | none => .error .missingModule
  | some modulePath => .ok {
      modulePath := Path.ofString modulePath
      outputPath := s.outputPath.map Path.ofString
      format := s.format.getD .markdown
      appearance := {
        baseUrl := s.baseUrl.getD ({} : Appearance).baseUrl
        declaredMethods := s.declaredMethods }
      verbose := s.verbose }

end Arguments

def Options.ofArguments (arguments : List String) : Except Refusal Options := do
  (← Arguments.readAll {} arguments).options

end ModuleReadme
