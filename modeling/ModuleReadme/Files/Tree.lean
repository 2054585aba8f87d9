import ModuleReadme.Error
import ModuleReadme.Files.Path

/-!
# File trees

A file tree is a file, a symbolic link or a directory of named trees. A place in a tree is the list
of names that lead to it from the root; no links are followed on the way. `at?` reads a tree at a
place and `put` changes it there.
-/

namespace ModuleReadme

/-! ## Files and directories

A file holds bytes, which need not be text. A file that the system does not open counts as a file
nevertheless: its name is met and it can be found, but what it holds is never seen and cannot be
replaced.
-/

inductive Content where
  | bytes (content : ByteArray)
  /-- Whatever the file holds, the system does not open the file, for the reason that is given. -/
  | sealed (fault : Fault)

instance : Coe ByteArray Content := ⟨Content.bytes⟩

/-- The text that a file holds, if the file is opened and what it holds is text. -/
def Content.text : Content → Except Fault String
  | .bytes content =>
    match String.fromUTF8? content with
    | some text => .ok text
    | none => .error .notText
  | .sealed fault => .error fault

/-- A file, a symbolic link, or a directory with its entries. -/
inductive Tree where
  | file (content : Content)
  | link (target : Path)
  | directory (entries : List (FileName × Tree))

/-- The names that lead from the root of a tree to a place in it. -/
abbrev Place := List FileName

/-! ## Entries

The entries of a directory are kept in some order, and of several with one name the first one
counts.
-/

def entryNamed? (name : FileName) : List (FileName × Tree) → Option Tree
  | [] => none
  | (n, t) :: rest => if n = name then some t else entryNamed? name rest

/-- The entries with the entry of this name replaced, or added at the end if there is none. -/
def setEntry (name : FileName) (new : Tree) : List (FileName × Tree) → List (FileName × Tree)
  | [] => [(name, new)]
  | (n, t) :: rest => if n = name then (n, new) :: rest else (n, t) :: setEntry name new rest

@[simp] theorem entryNamed?_setEntry_self (name : FileName) (new : Tree)
    (entries : List (FileName × Tree)) :
    entryNamed? name (setEntry name new entries) = some new := by
  induction entries with
  | nil => simp [setEntry, entryNamed?]
  | cons e rest ih =>
    obtain ⟨n, t⟩ := e
    by_cases h : n = name <;> simp [setEntry, entryNamed?, h, ih]

theorem entryNamed?_setEntry_of_ne {name other : FileName} (h : other ≠ name) (new : Tree)
    (entries : List (FileName × Tree)) :
    entryNamed? other (setEntry name new entries) = entryNamed? other entries := by
  induction entries with
  | nil => simp [setEntry, entryNamed?, Ne.symm h]
  | cons e rest ih =>
    obtain ⟨n, t⟩ := e
    by_cases hn : n = name
    · subst hn; simp [setEntry, entryNamed?, Ne.symm h]
    · by_cases ho : n = other <;> simp_all [setEntry, entryNamed?]

/-! ## Places -/

namespace Tree

def isDirectory : Tree → Bool
  | directory _ => true
  | _ => false

def isFile : Tree → Bool
  | file _ => true
  | _ => false

def at? (t : Tree) : Place → Option Tree
  | [] => some t
  | name :: rest =>
    match t with
    | directory entries => (entryNamed? name entries).bind (·.at? rest)
    -- A link has no entries of its own, wherever it leads.
    | _ => none

/-- The tree with `new` at a place. Directories that are missing on the way are made; nothing
changes if something else than a directory is on the way. -/
def put : Tree → Place → Tree → Tree
  | _, [], new => new
  | directory entries, name :: rest, new =>
    directory <|
      setEntry name (((entryNamed? name entries).getD (directory [])).put rest new) entries
  | t, _ :: _, _ => t  -- a file or a link stands in the way

/-- The tree without what is at a place. The root stays. -/
def remove : Tree → Place → Tree
  | t, [] => t
  | directory entries, [name] => directory (entries.filter (·.1 != name))
  | directory entries, name :: rest =>
    match entryNamed? name entries with
    | some t => directory (setEntry name (t.remove rest) entries)
    | none => directory entries
  | t, _ :: _ => t

end Tree

end ModuleReadme
