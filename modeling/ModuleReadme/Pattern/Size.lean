import ModuleReadme.Pattern.Basic
import ModuleReadme.Text.Encoding
import ModuleReadme.Text.Ranges
import Std.Data.HashMap

/-!
# The size of search programs

To search for a pattern, a program is made of it that reads a text byte by byte, and another one
that reads it backward. The states of such a program take memory, of which there is a limit: a
pattern whose programs become larger is too large (`fits`).

Sets of characters make most of the states. Parts of a set that end alike share states as far as a
table of states made before remembers them; a table has a place for each value of a hash, and what
comes last to a place stays there.
-/

namespace ModuleReadme.Text

/-!
## Ranges of bytes

A range of characters is searched for byte by byte: it is cut into parts whose encodings are
described by one range for each byte.
-/

/-! ### Cuts -/

abbrev ByteRanges := List (UInt8 × UInt8)

def encodeCode (n : Nat) : List UInt8 := encode (String.singleton (Char.ofNat n))

/-- The last code points that are encoded by one, two and three bytes. -/
def lastCodes : List Nat := [0x7F, 0x7FF, 0xFFFF]

/-- How many code points share their first bytes, if they differ in one, two and three bytes. -/
def blockSizes : List Nat := [0x40, 0x1000, 0x40000]

/-- The last code point of the first part, if the code points from `first` to `last` have to be cut:
where encodings become longer, and where they no longer share their first bytes. -/
def cut? (first last : Nat) : Option Nat :=
  match lastCodes.find? fun n => decide (first ≤ n ∧ n < last) with
  | some n => some n
  | none =>
    if last ≤ 0x7F then none
    else
      blockSizes.findSome? fun size =>
        if first / size = last / size then none
        else if first % size ≠ 0 then some (first / size * size + (size - 1))
        else if last % size ≠ size - 1 then some (last / size * size - 1)
        else none

def byteRanges (first last : Nat) : List ByteRanges :=
  match cut? first last with
  | some n =>
    -- Always so; it shows that both parts are smaller.
    if first ≤ n ∧ n < last then byteRanges first n ++ byteRanges (n + 1) last else []
  | none => [(encodeCode first).zip (encodeCode last)]
termination_by last - first

def Ranges.byteRanges (set : Ranges) : List ByteRanges :=
  set.flatMap fun r => Text.byteRanges r.1 r.2

end ModuleReadme.Text

namespace ModuleReadme.Pattern

/-! ## Growing programs -/

open Text

/-!
### Programs

Only the size of a program is kept. It grows step by step, and each step checks the limit, so that a
pattern that is far too large is not gone through to its end.
-/

/-- A program that is being made, by its size. States are numbered in the order in which they are
made. -/
structure Program where
  states : Nat
  /-- The bytes that the states take beyond those that all of them take. -/
  extra : Nat
  deriving DecidableEq, Repr

namespace Program

def bytes (p : Program) : Nat := p.states * 32 + p.extra

/-- The most bytes that a program may take: ten mebibytes. -/
def limit : Nat := 10485760

def grow (p : Program) (states extra : Nat) : Option Program :=
  let larger := { states := p.states + states, extra := p.extra + extra : Program }
  if larger.bytes ≤ limit then some larger else none

def stepBytes : Nat := 8

def branchBytes : Nat := 4

def repeatedly (growth : Program → Option Program) (n : Nat) (p : Program) : Option Program :=
  match n with
  | 0 => some p
  | n + 1 =>
    match growth p with
    | none => none
    | some p => repeatedly growth n p

def inOrder (growths : List (Program → Option Program)) (p : Program) : Option Program :=
  match growths with
  | [] => some p
  | growth :: rest =>
    match growth p with
    | none => none
    | some p => inOrder rest p

end Program

/-!
### Tables of states

Whether a state is made twice depends on what the table remembers, and that depends on the hash. The
hash belongs to the size of a program for this reason.
-/

/-- Numbers put together to one, by the method of Fowler, Noll and Vo. -/
def hash (numbers : List Nat) : UInt64 :=
  numbers.foldl (fun h n => (h ^^^ n.toUInt64) * 1099511628211) 14695981039346656037

abbrev Table (α : Type) := Std.HashMap Nat (α × Nat)

def Table.state? [BEq α] (table : Table α) (place : Nat) (key : α) : Option Nat :=
  match table[place]? with
  | some (k, state) => if k == key then some state else none
  | none => none

/-!
### Sets of characters, forward

The parts of a set come in order, so a part shares its first bytes with the part before it if with
any. The states for the last part stay open until it is known how much of them the next part
shares.
-/

structure Step where
  range : UInt8 × UInt8
  next : Nat
  deriving DecidableEq

structure Forward where
  program : Program
  table : Table (List Step)

def forwardPlaces : Nat := 10000

def Step.numbers (s : Step) : List Nat := [s.range.1.toNat, s.range.2.toNat, s.next]

/-- A state with these steps: one that is in the table, or a new one. -/
def Forward.state (f : Forward) (steps : List Step) : Option (Forward × Nat) :=
  let place := (hash (steps.flatMap Step.numbers)).toNat % forwardPlaces
  match f.table.state? place steps with
  | some state => some (f, state)
  | none =>
    (f.program.grow 1 (steps.length * Program.stepBytes)).map fun program =>
      ({ program, table := f.table.insert place (steps, f.program.states) }, f.program.states)

/-- A state that may still get steps: those that it has, and a range whose step is not known yet. -/
structure OpenState where
  steps : List Step
  last : Option (UInt8 × UInt8)

/-- The steps of a state, the last one being to the state `next`. -/
def OpenState.allSteps (s : OpenState) (next : Nat) : List Step :=
  match s.last with
  | none => s.steps
  | some range => s.steps ++ [{ range, next }]

/-- Makes the states of the innermost open ones, until `depth` of them are left around the last one
that stays open. The states are given from the inside out. -/
def close (depth next : Nat) : List OpenState → Forward → Option (List OpenState × Forward)
  | [], f => some ([], f)
  | s :: outer, f =>
    if depth < outer.length then
      match f.state (s.allSteps next) with
      | none => none
      | some (f, state) => close depth state outer f
    else some ({ steps := s.allSteps next, last := none } :: outer, f)

/-- How many of the ranges at the beginning are those of open states, given from the outside in. -/
def sharedRanges : List OpenState → ByteRanges → Nat
  | s :: inner, r :: ranges => if s.last = some r then sharedRanges inner ranges + 1 else 0
  | _, _ => 0

/-- Opens a state for each range but the first, which belongs to the innermost state. -/
def openStates : List OpenState → ByteRanges → List OpenState
  | s :: outer, r :: ranges =>
    ranges.foldl (fun states r => { steps := [], last := some r } :: states)
      ({ s with last := some r } :: outer)
  | states, _ => states

/-- Makes states for a part of a set, which comes behind all parts before. -/
def addPart (target : Nat) (states : List OpenState) (f : Forward) (part : ByteRanges) :
    Option (List OpenState × Forward) :=
  let shared := sharedRanges states.reverse part
  (close shared target states f).map fun (states, f) => (openStates states (part.drop shared), f)

def addParts (target : Nat) (states : List OpenState) (f : Forward) :
    List ByteRanges → Option Program
  | [] =>
    match close 0 target states f with
    | some (root :: _, f) => (f.state root.steps).map (·.1.program)
    | _ => none
  | part :: parts =>
    match addPart target states f part with
    | none => none
    | some (states, f) => addParts target states f parts

def growSetForward (set : Ranges) (p : Program) : Option Program :=
  match p.grow 1 0 with
  | none => none
  | some started =>
    addParts p.states [{ steps := [], last := none }] { program := started, table := {} }
      set.byteRanges

/-!
### Sets of characters, backward

Backward the bytes of all parts that begin alike end alike, so the states are found in the table one
by one.
-/

/-- What a state does backward: it goes on to a state by the bytes of a range. -/
structure BackStep where
  next : Nat
  range : UInt8 × UInt8
  deriving DecidableEq

def backwardPlaces : Nat := 1000

/-- Makes states for one range after the other, the first one going on to the state `next`. -/
def addBackward (next : Nat) (p : Program) (table : Table BackStep) :
    ByteRanges → Option (Program × Table BackStep)
  | [] => (p.grow 0 Program.branchBytes).map (·, table)
  | range :: ranges =>
    let step := { next, range : BackStep }
    let place :=
      (hash [next, range.1.toNat, range.2.toNat]).toNat % backwardPlaces
    match table.state? place step with
    | some state => addBackward state p table ranges
    | none =>
      match p.grow 1 0 with
      | none => none
      | some larger => addBackward p.states larger (table.insert place (step, p.states)) ranges

def addAllBackward (next : Nat) (p : Program) (table : Table BackStep) :
    List ByteRanges → Option Program
  | [] => some p
  | part :: parts =>
    match addBackward next p table part with
    | none => none
    | some (p, table) => addAllBackward next p table parts

def growSetBackward (set : Ranges) (p : Program) : Option Program :=
  (p.grow 2 0).bind fun started => addAllBackward (p.states + 1) started {} set.byteRanges

/-!
### Literals

Alternatives that are all literals are put together to a tree by the bytes that they begin with. The
order of the alternatives is kept: a literal behind another one that it begins with comes later.
-/

/-- A state of a tree of literals. A literal that ends in a state cuts its steps in two. -/
structure TreeState where
  /-- How many steps there are in the parts that came before the last literal that ended here. -/
  parts : List Nat
  /-- The steps behind that, by their bytes. -/
  steps : List (UInt8 × Nat)

/-- A state in which another literal ends. -/
def TreeState.finish (s : TreeState) : TreeState :=
  if s.steps.isEmpty && !s.parts.isEmpty && s.parts.all (· == 0) then s
  else { parts := s.steps.length :: s.parts, steps := [] }

def addLiteral (tree : Array TreeState) (state : Nat) : List UInt8 → Array TreeState
  | [] => tree.modify state (·.finish)
  | b :: bytes =>
    match tree[state]?.bind (·.steps.lookup b) with
    | some next => addLiteral tree next bytes
    | none =>
      let grown := tree.modify state fun s => { s with steps := (b, tree.size) :: s.steps }
      addLiteral (grown.push { parts := [], steps := [] }) tree.size bytes

/-- Makes the states for a state of a tree: one for each part with steps, and one that branches to
these and, between them, to the end. -/
def TreeState.growth (s : TreeState) (p : Program) : Option Program :=
  let sizes := (s.steps.length :: s.parts).filter (· ≠ 0)
  if sizes.isEmpty then some p
  else
    p.grow (sizes.length + 1) <|
      (sizes.length + s.parts.length) * Program.branchBytes
        + (sizes.filter (· ≠ 1)).foldl (fun bytes n => bytes + n * Program.stepBytes) 0

def growLiterals (literals : List (List UInt8)) (p : Program) : Option Program :=
  let tree := literals.foldl (fun tree bytes => addLiteral tree 0 bytes)
    #[{ parts := [], steps := [] }]
  (p.grow 1 0).bind (·.inOrder (tree.toList.map TreeState.growth))

/-!
### Patterns

The growth for a pattern is that of its parts and of the states that put them together.
-/

inductive Direction where
  | forward
  | backward
  deriving DecidableEq, Repr

/-- The bytes of a pattern that is a literal, in the order in which they are read. -/
def literalBytes? (d : Direction) : Pattern → Option (List UInt8)
  | literal chars =>
    let bytes := encode (String.ofList chars)
    some (match d with | .forward => bytes | .backward => bytes.reverse)
  | _ => none

def growSet (d : Direction) (set : Ranges) (p : Program) : Option Program :=
  if List.all set fun r => decide (r.2 < 0x80) then p.grow 2 (set.length * Program.stepBytes)
  else
    match d with
    | .forward => growSetForward set p
    | .backward => growSetBackward set p

/-- The fewest characters that a pattern passes. For a set without characters there is no such
number. -/
def leastLength? : Pattern → Option Nat
  | empty => some 0
  | literal chars => some chars.length
  | oneOf set => if set.isEmpty then none else some 1
  | condition _ => some 0
  | followedBy p q => do return (← p.leastLength?) + (← q.leastLength?)
  | either p q => do return min (← p.leastLength?) (← q.leastLength?)
  | repeated p least _ _ => p.leastLength?.map (· * least)
  | group _ p => p.leastLength?

def passes (p : Pattern) : Bool := p.leastLength?.any (0 < ·)

def growFork (p : Program) : Option Program := p.grow 1 (2 * Program.branchBytes)

def growTimes (growth : Program → Option Program) (n : Nat) (p : Program) : Option Program :=
  if n = 0 then p.grow 1 0 else p.repeatedly growth n

def growRepetition (growth : Program → Option Program) (passes : Bool) (least : Nat)
    (most : Option Nat) (p : Program) : Option Program :=
  match least, most with
  | 0, none =>
    -- What may pass nothing gets a way out of its own, so that it is not repeated forever.
    if passes then p.inOrder [growFork, growth]
    else p.inOrder [growth, growFork, growFork, (·.grow 1 0)]
  | least + 1, none => p.inOrder [(·.repeatedly growth (least + 1)), growFork]
  | 0, some 1 => p.inOrder [growFork, growth, (·.grow 1 0)]
  | least, some most =>
    if least = most then growTimes growth least p
    else
      p.inOrder [growTimes growth least, (·.grow 1 0),
        (·.repeatedly (·.inOrder [growFork, growth]) (most - least))]

/-- Lets a program grow for a pattern that is an alternative behind `front` others, by the growth
for the pattern itself. Behind the second alternative come the state that branches to all of them
and the one that they end in. -/
def growBranch (front : Nat) (growth : Program → Option Program) (p : Program) : Option Program :=
  p.inOrder [growth, (·.grow (if front = 1 then 2 else 0) Program.branchBytes)]

/-- The same, where the pattern need not be an alternative: then nothing is in front of it. -/
def growAt (front : Nat) (growth : Program → Option Program) : Program → Option Program :=
  if front = 0 then growth else growBranch front growth

/-- Makes states for a pattern. If it is an alternative, `front` others are in front of it. -/
def growth (d : Direction) : Pattern → Nat → Program → Option Program
  | empty, front => growAt front (·.grow 1 0)
  | literal chars, front => growAt front (·.grow (encode (String.ofList chars)).length 0)
  | oneOf set, front => growAt front (growSet d set)
  | condition _, front => growAt front (·.grow 1 0)
  | followedBy p q, front =>
    growAt front fun program =>
      match d with
      | .forward => program.inOrder [p.growth d 0, q.growth d 0]
      | .backward => program.inOrder [q.growth d 0, p.growth d 0]
  | either p q, front => fun program =>
    let literals? := if front = 0 then (either p q).branches.mapM (literalBytes? d) else none
    match literals? with
    | some literals => growLiterals literals program
    | none => program.inOrder [growBranch front (p.growth d 0), q.growth d (front + 1)]
  | repeated p least most _, front =>
    growAt front (growRepetition (p.growth d 0) p.passes least most)
  | group _ p, front =>
    growAt front fun program =>
      match d with
      | .forward => program.inOrder [(·.grow 1 0), p.growth d 0, (·.grow 1 0)]
      | .backward => p.growth d 0 program

/-! ### Whole programs -/

/-- Whether a pattern matches at the start of a text only, as far as its items tell. -/
def startsText : Pattern → Bool
  | condition c => c == .textStart
  | followedBy p q => p.startsText || (p.isPoint && q.startsText)
  | either p q => p.startsText && q.startsText
  | repeated p least _ _ => decide (0 < least) && p.startsText
  | group _ p => p.startsText
  | _ => false

/-- Whether a pattern matches at the end of a text only, as far as its items tell. -/
def endsText : Pattern → Bool
  | condition c => c == .textEnd
  | followedBy p q => q.endsText || (q.isPoint && p.endsText)
  | either p q => p.endsText && q.endsText
  | repeated p least _ _ => decide (0 < least) && p.endsText
  | group _ p => p.endsText
  | _ => false

/-- The states that pass the text in front of a match, or behind it if the text is read backward. If
a match cannot but be at the very end there is one state that passes nothing. -/
def growApproach (anchored : Bool) (p : Program) : Option Program :=
  if anchored then p.grow 1 0 else p.grow 3 (2 * Program.branchBytes + Program.stepBytes)

def program? (p : Pattern) (d : Direction) : Option Program :=
  let start : Program := { states := 0, extra := 0 }
  match d with
  | .forward =>
    start.inOrder [growApproach p.startsText, (·.grow 1 0), p.growth d 0, (·.grow 2 0)]
  | .backward => start.inOrder [growApproach p.endsText, p.growth d 0, (·.grow 1 0)]

def fits (p : Pattern) : Bool := (p.program? .forward).isSome && (p.program? .backward).isSome

end ModuleReadme.Pattern
