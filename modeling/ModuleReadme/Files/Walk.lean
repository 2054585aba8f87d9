import ModuleReadme.Files.Workspace

/-!
# Walking a directory

A walk goes through a directory depth first and meets the entries of each directory in the order of
their names. It does not follow links, and it leaves out hidden entries, whose names begin with a
dot, and directories named `target`, which hold build products.
-/

namespace ModuleReadme

/-! ## What is met

Directories are not reported, apart from those that cannot be opened: what is below them stays
unknown, and a warning is all that comes of them.
-/

inductive Visit where
  /-- A regular file, with its name and the number of names on the way to it. -/
  | file (path : Path) (name : FileName) (depth : Nat)
  /-- A directory that could not be opened. -/
  | unopened (path : Path) (fault : Fault)
  deriving DecidableEq, Repr

namespace Tree

/-- The order of file names by bytes. -/
def nameLE (a b : FileName) : Bool := decide (a ≤ b)

/-! ## Going through a tree

The results for the entries of a directory are put in the order of the names only when all of them
are there. So the recursion follows the entries as they are listed, and the order of a walk does
not depend on it.
-/

/-- Entries that a walk leaves out, whatever is below them. -/
def isLeftOut (name : FileName) (t : Tree) : Bool :=
  name.head? == some Path.dot || (t.isDirectory && name == Text.encode "target")

def inNameOrder (results : List (FileName × List Visit)) : List Visit :=
  (results.mergeSort fun a b => nameLE a.1 b.1).flatMap (·.2)

mutual

/-- What a walk meets at a tree that it reached by a path through `depth` names. -/
def visits (path : Path) (name : FileName) (depth : Nat) : Tree → List Visit
  | .file _ => [.file path name depth]
  | .link _ => []
  | .directory entries =>
    -- Each directory is opened by its whole path, which grows with every name on the way.
    if path.isTooLong then [.unopened path .nameTooLong]
    else inNameOrder (visitsOfEntries path (depth + 1) entries)

def visitsOfEntries (path : Path) (depth : Nat) :
    List (FileName × Tree) → List (FileName × List Visit)
  | [] => []
  | (name, t) :: rest =>
    if isLeftOut name t then visitsOfEntries path depth rest
    else (name, visits (path.child name) name depth t) :: visitsOfEntries path depth rest

end

end Tree

/-- What a walk from a path meets, if the path leads to a directory. -/
def Workspace.walk? (w : Workspace) (root : Path) : Option (List Visit) :=
  match w.find root with
  | .ok (.directory entries) => some ((Tree.directory entries).visits root [] 0)
  | _ => none

/-! ## Listing

A listing shows everything that there is, hidden entries included. It shows what a run has changed.
-/

mutual

/-- The paths of everything below a directory: directories are marked with a slash behind them,
links with an at sign. -/
def Tree.listing (path : Path) : Tree → List Path
  | .file _ => [path]
  | .link _ => [⟨path.bytes ++ [0x40]⟩]
  | .directory entries => ⟨path.bytes ++ [Path.slash]⟩ :: Tree.listingOfEntries path entries

def Tree.listingOfEntries (path : Path) : List (FileName × Tree) → List Path
  | [] => []
  | (name, t) :: rest => t.listing (path.child name) ++ Tree.listingOfEntries path rest

end

def Workspace.listing (w : Workspace) : List Path :=
  match w.root.at? w.current with
  | some (.directory entries) =>
    (Tree.listingOfEntries ⟨[]⟩ entries).mergeSort fun a b => decide (a.bytes ≤ b.bytes)
  | _ => []

end ModuleReadme
