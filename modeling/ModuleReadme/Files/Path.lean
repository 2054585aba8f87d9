import ModuleReadme.Text.Encoding

/-!
# Paths

A path is a sequence of bytes in which slashes separate components. It is kept as it was written,
since messages and results show it so: `join` and `parent` work on the bytes, and `steps` says what
a path asks of a file tree.

Slashes that repeat, slashes at the end and components `.` are redundant, except that a path may
begin with `.`: the `head` of a path is the `/` or `.` that it begins with, and `segments` are the
pieces between slashes behind it.
-/

namespace ModuleReadme

/-- The name of an entry of a directory, in bytes. -/
abbrev FileName := List UInt8

/-- A path as it was written. -/
structure Path where
  bytes : List UInt8
  deriving DecidableEq, Repr

namespace Path

/-! ### Bytes and texts

A path need not be text. Where it is shown in a message, bytes that are no text are replaced; where
it becomes a part of a result, it has to be text.
-/

def slash : UInt8 := 0x2F

def dot : UInt8 := 0x2E

def ofString (text : String) : Path := ⟨Text.encode text⟩

/-- The path as text, for messages. -/
def display (p : Path) : String := Text.display p.bytes

def toString? (p : Path) : Option String := Text.decode? p.bytes

def isAbsolute (p : Path) : Bool := p.bytes.head? == some slash

def endsInSlash (p : Path) : Bool := p.bytes.getLast? == some slash

/-! ### Limits -/

/-- The longest path, in bytes, that can be looked up. -/
def maxLength : Nat := 4095

def isTooLong (p : Path) : Bool := maxLength < p.bytes.length

/-! ### Components

Components are found from the end of a path: redundant pieces there count for nothing, and the last
piece that is not redundant is the last component. Redundant pieces between others stay where they
are, since nothing that is asked of a path depends on them.
-/

/-- The slash of an absolute path, or the dot of a path that begins with the component `.`. -/
def head (p : Path) : List UInt8 :=
  match p.bytes with
  | [] => []
  | b :: rest =>
    if b = slash then [slash]
    -- A dot is a component of its own only up to the next slash: `.git` has no head.
    else if b = dot && (rest.isEmpty || rest.head? == some slash) then [dot]
    else []

/-- The pieces between the slashes behind the head. -/
def segments (p : Path) : List (List UInt8) := (p.bytes.drop p.head.length).splitOn slash

/-- An empty piece or the component `.`. -/
def isRedundant (segment : List UInt8) : Bool := segment.isEmpty || segment == [dot]

/-- The pieces without the redundant ones at the end. -/
def trimmedSegments (p : Path) : List (List UInt8) :=
  (p.segments.reverse.dropWhile isRedundant).reverse

def ofSegments (head : List UInt8) (segments : List (List UInt8)) : Path :=
  ⟨head ++ [slash].intercalate segments⟩

/-- The last component, unless it is `..`. -/
def fileName? (p : Path) : Option FileName :=
  p.trimmedSegments.getLast?.filter (· != [dot, dot])

/-- The path without its last component. A path without components, such as `/`, has no parent. -/
def parent? (p : Path) : Option Path :=
  match p.trimmedSegments with
  | [] => if p.head = [dot] then some ⟨[]⟩ else none
  | segment :: rest =>
    some (ofSegments p.head
      (((segment :: rest).dropLast.reverse.dropWhile isRedundant).reverse))

/-- The path and the directories above it that it names, the nearest first. -/
def ancestors (p : Path) : List Path :=
  match p.parent? with
  | none => []
  -- The comparison always holds; it is what makes the recursion end.
  | some q => if q.bytes.length < p.bytes.length then p :: q.ancestors else [p]
termination_by p.bytes.length

/-- The path of `other` when it is read from `p` on. -/
def join (p other : Path) : Path :=
  if other.isAbsolute || p.bytes.isEmpty then other
  else if p.endsInSlash then ⟨p.bytes ++ other.bytes⟩
  else ⟨p.bytes ++ slash :: other.bytes⟩

def child (p : Path) (name : FileName) : Path := p.join ⟨name⟩

/-! ### File names

The extension begins at the last dot. The name `..` is no file name, and `.pom` has no extension.
-/

/-- A file name without its extension. A dot at the front begins no extension. -/
def stemOf (name : FileName) : FileName :=
  if name.contains dot then
    match (name.reverse.dropWhile (· != dot)).tail.reverse with
    | [] => name
    | stem => stem
  else name

def stem? (p : Path) : Option FileName := p.fileName?.map stemOf

/-- The last component without its extension, as text. There is none for `/` and `..`. -/
def stem (p : Path) : String := (p.stem?.map Text.display).getD ""

/-! ### What a path asks for

The steps of a path are what a lookup goes by. Empty pieces ask for nothing, and a slash at the end
asks for a directory.
-/

/-- One step on the way that a path describes. -/
inductive Step where
  /-- Stay in the directory. -/
  | here
  /-- Go to the directory above. -/
  | up
  /-- Go to an entry of the directory. -/
  | entry (name : FileName)
  /-- A slash at the end: what was reached has to be a directory. -/
  | slashAtEnd
  deriving DecidableEq, Repr

def stepOf? (segment : List UInt8) : Option Step :=
  if segment.isEmpty then none
  else if segment = [dot] then some .here
  else if segment = [dot, dot] then some .up
  else some (.entry segment)

def steps (p : Path) : List Step :=
  (p.bytes.splitOn slash).filterMap stepOf? ++ if p.endsInSlash then [.slashAtEnd] else []

end Path

end ModuleReadme
