import ModuleReadme.Files.Workspace
import ModuleReadme.Log.Event

/-!
# Text files

The files of a module are read as text, one by one, and its README is written as text. A file that
cannot be read is logged and left out, so that it never keeps the others from being read. Whatever
keeps a text from being written ends the work.
-/

namespace ModuleReadme

/-! ## Reading

A file is read in three ways: `textFile` says what it holds, `readOne` logs the attempt, and
`readOptional` logs the failure as well and goes on without the file. Everything that is read for a
README goes through the last one.
-/

structure TextFile where
  path : Path
  content : String
  deriving DecidableEq, Repr

def TextFile.stem (f : TextFile) : String := f.path.stem

namespace Workspace

def textFile (w : Workspace) (path : Path) : Except Error TextFile :=
  match w.readText path with
  | .ok content => .ok { path, content }
  | .error fault => .error (.fileRead path fault)

def readOne (w : Workspace) (path : Path) : Logged (Except Error TextFile) := do
  .log (.readingFile path)
  return w.textFile path

/-- Reads a file if there is a path and it can be read. -/
def readOptional (w : Workspace) : Option Path → Logged (Option TextFile)
  | none => return none
  | some path => do
    match ← w.readOne path with
    | .ok file => return some file
    | .error error =>
      .log (.fileSkipped error)
      return none

def readEach (w : Workspace) : List Path → Logged (List TextFile)
  | [] => return []
  | path :: rest => do
    let file ← w.readOptional (some path)
    let files ← w.readEach rest
    return file.toList ++ files

def readFiles (w : Workspace) (paths : List Path) : Logged (List TextFile) := do
  .log (.readingFiles paths.length)
  let files ← w.readEach paths
  .log (.readingDone files.length (paths.length - files.length))
  return files

/-! What is read does not depend on what is logged on the way. -/

theorem value_readEach (w : Workspace) (paths : List Path) :
    (w.readEach paths).value = paths.filterMap fun path => (w.textFile path).toOption := by
  induction paths with
  | nil => rfl
  | cons path rest ih =>
    simp only [readEach, Logged.value_bind, Logged.value_pure, ih, List.filterMap_cons,
      readOptional, readOne]
    cases w.textFile path <;> simp [Except.toOption]

end Workspace

/-!
## Writing

A text is written to a file after the directories on the way to it have been made. A directory that
cannot be made is reported under its own path, and directories made before it stay.
-/

/-- The directory that has to be there before a file can be written: the parent of the file, unless
that is the current directory. -/
def Path.directory? (p : Path) : Option Path := p.parent?.filter (!·.bytes.isEmpty)

namespace Workspace

/-- Makes the directories on the way to a file. -/
def prepare (w : Workspace) (path : Path) : Workspace × Except Error Unit :=
  match path.directory? with
  | none => (w, .ok ())
  | some directory =>
    match w.makeDirectories directory with
    | (w₁, .ok ()) => (w₁, .ok ())
    -- `w₁` may have some of the directories already, and keeps them.
    | (w₁, .error fault) => (w₁, .error (.write directory fault))

def save (w : Workspace) (path : Path) (text : String) : Workspace × Except Error Unit :=
  match w.prepare path with
  | (w₁, .error error) => (w₁, .error error)
  | (w₁, .ok ()) =>
    match w₁.writeFile path text.toUTF8 with
    | .ok w₂ => (w₂, .ok ())
    | .error fault => (w₁, .error (.write path fault))

/-- Saves a text and logs it. The number of bytes is logged only when they have been written. -/
def saveText (w : Workspace) (path : Path) (text : String) :
    Logged (Workspace × Except Error Unit) := do
  .log (.writingFile path)
  match w.save path text with
  | (w₁, .error error) => return (w₁, .error error)
  | (w₁, .ok ()) =>
    .log (.fileWritten text.utf8ByteSize path)
    return (w₁, .ok ())

end Workspace

end ModuleReadme
