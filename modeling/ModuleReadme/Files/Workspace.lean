import ModuleReadme.Error
import ModuleReadme.Files.Tree

/-!
# Workspaces

A workspace is a file tree together with a current directory, from which paths are read that do not
begin with a slash. Looking up a path goes step by step through the tree and follows symbolic
links; `Purpose` says what the lookup is for, since reading a file, writing one and making a
directory differ in what they accept at the last step.
-/

namespace ModuleReadme

/-- A file tree and the place of the current directory in it. -/
structure Workspace where
  root : Tree
  current : Place

namespace Workspace

/-! ### Looking up a path

A lookup takes the steps of a path one after the other. At a link it goes on with the steps of the
target in front of those that are left; the number of links that it may follow in all is bounded,
so a link that leads to itself ends the lookup with a fault.
-/

inductive Purpose where
  /-- To find what is there. -/
  | find
  /-- To write a file, which is created if it is missing. -/
  | write
  /-- To create an entry where there is none. A link at the last step is not followed, and a slash
  after it makes no difference. -/
  | create
  /-- To take what is there itself, even if it is a link. -/
  | take
  /-- To spell out where it is, from the root on and without links. Each place on the way has to be
  spelled out as well, and none may come out too long. -/
  | spell
  deriving DecidableEq, Repr

def maxLinks : Nat := 40

/-- The longest name of an entry, in bytes. -/
def maxNameLength : Nat := 255

/-- A place spelled out from the root on. -/
def spelled (place : Place) : Path := ⟨place.flatMap (Path.slash :: ·)⟩

/-- The place that is reached by some steps from a place, following at most `links` links. Steps can
only be taken in a directory. -/
def follow (root : Tree) (purpose : Purpose) (links : Nat) (place : Place) :
    List Path.Step → Except Fault Place
  | [] => if purpose = .create then .error .alreadyExists else .ok place
  | step :: rest =>
    match root.at? place with
    | some (.directory entries) =>
      match step with
      | .here | .slashAtEnd => follow root purpose links place rest
      | .up => follow root purpose links place.dropLast rest
      | .entry name =>
        -- A file is asked for, and a directory can neither be written nor made by that.
        if purpose = .write ∧ rest = [.slashAtEnd] then .error .isADirectory
        else if maxNameLength < name.length
            ∨ purpose = .spell ∧ (spelled (place ++ [name])).isTooLong then .error .nameTooLong
        else
          match entryNamed? name entries with
          | none =>
            -- What is missing can be made, but only as the last component.
            if rest = [] ∧ (purpose = .write ∨ purpose = .create)
                ∨ rest = [.slashAtEnd] ∧ purpose = .create then .ok (place ++ [name])
            else .error .notFound
          | some (.link target) =>
            if rest = [] ∧ purpose = .create then .error .alreadyExists
            else if rest = [] ∧ purpose = .take then .ok (place ++ [name])
            else
              match links with
              | 0 => .error .tooManyLinks
              | links + 1 =>
                -- A link is read from the directory that it stands in.
                follow root purpose links (if target.isAbsolute then [] else place)
                  (target.steps ++ rest)
          | some _ => follow root purpose links (place ++ [name]) rest
    | _ => .error .notADirectory
termination_by steps => (links, steps.length)

/-- The place that a path leads to. -/
def locate (w : Workspace) (purpose : Purpose) (p : Path) : Except Fault Place :=
  if p.bytes.contains 0 then .error .zeroByte
  else if p.bytes.isEmpty then .error .notFound
  -- To spell out a path is to look up its components one by one, so the whole may be longer.
  else if p.isTooLong ∧ purpose ≠ .spell then .error .nameTooLong
  else follow w.root purpose maxLinks (if p.isAbsolute then [] else w.current) p.steps

def find (w : Workspace) (p : Path) : Except Fault Tree :=
  match w.locate .find p with
  | .error fault => .error fault
  | .ok place =>
    match w.root.at? place with
    | some t => .ok t
    | none => .error .notFound

/-! ### Questions

A question whether something is there has no room for a fault. Whatever keeps a lookup from coming
to an end makes the answer `false`, also where there is a file that a shorter path would lead to.
-/

def reaches (w : Workspace) (p : Path) : Bool :=
  match w.find p with
  | .ok _ => true
  | .error _ => false

def isDirectory (w : Workspace) (p : Path) : Bool :=
  match w.find p with
  | .ok t => t.isDirectory
  | .error _ => false

def isFile (w : Workspace) (p : Path) : Bool :=
  match w.find p with
  | .ok t => t.isFile
  | .error _ => false

def readText (w : Workspace) (p : Path) : Except Fault String :=
  match w.find p with
  | .error fault => .error fault
  | .ok (.file content) => content.text
  | .ok _ => .error .isADirectory

/-- The last name of the place that a path leads to, or of the path itself if that cannot be spelled
out. The root has no name. -/
def nameOf? (w : Workspace) (p : Path) : Option FileName :=
  match w.locate .spell p with
  | .ok place => place.getLast?
  | .error _ => p.fileName?

/-! ### Changes

A change either fails and leaves the workspace as it was or changes it at one place. Only the
making of several directories can fail halfway.
-/

def put (w : Workspace) (place : Place) (new : Tree) : Workspace :=
  { w with root := w.root.put place new }

/-- Writes a file, which replaces the content of the file that was there. -/
def writeFile (w : Workspace) (p : Path) (content : ByteArray) : Except Fault Workspace :=
  match w.locate .write p with
  | .error fault => .error fault
  | .ok place =>
    match w.root.at? place with
    | some (.directory _) => .error .isADirectory
    | some (.file (.sealed fault)) => .error fault
    -- What is there is a file, or nothing yet.
    | _ => .ok (w.put place (.file content))

def create (w : Workspace) (p : Path) (new : Tree) : Except Fault Workspace :=
  (w.locate .create p).map fun place => w.put place new

def makeDirectory (w : Workspace) (p : Path) : Except Fault Workspace :=
  w.create p (.directory [])

/-- Makes the directories `p :: above` that are missing, where each path is in the directory that
the next one names. What was made stays if a later one cannot be made. -/
def makeDirectoriesFrom (w : Workspace) : List Path → Workspace × Except Fault Unit
  | [] => (w, .ok ())
  | p :: above =>
    match w.makeDirectory p with
    | .ok w₁ => (w₁, .ok ())
    | .error .notFound =>
      -- The directory that `p` is to be in is missing. It is made first.
      match w.makeDirectoriesFrom above with
      | (w₁, .error fault) => (w₁, .error fault)
      | (w₁, .ok ()) =>
        match w₁.makeDirectory p with
        | .ok w₂ => (w₂, .ok ())
        | .error fault => (w₁, if w₁.isDirectory p then .ok () else .error fault)
    -- What is there already does no harm if it is a directory.
    | .error fault => (w, if w.isDirectory p then .ok () else .error fault)

/-- Makes the directory that a path names, and those above it that are missing. -/
def makeDirectories (w : Workspace) (p : Path) : Workspace × Except Fault Unit :=
  w.makeDirectoriesFrom p.ancestors

/-- Takes away what a path leads to: a file, a link or a whole directory. -/
def remove (w : Workspace) (p : Path) : Except Fault Workspace :=
  match w.locate .take p with
  | .error fault => .error fault
  | .ok place => .ok { w with root := w.root.remove place }

end Workspace

end ModuleReadme
