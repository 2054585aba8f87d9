import ModuleReadme.Pattern.Escape
import ModuleReadme.Pattern.Size

/-!
# Written patterns

`Pattern.ofText?` reads a pattern in the usual notation: characters that stand for themselves, dots,
classes in brackets, escapes, groups, bars between alternatives and signs for repetition. There is
no way to refer back to a group or to look around.
-/

namespace ModuleReadme.Pattern

/-!
## Classes in brackets

Brackets hold characters, ranges, escapes and further brackets, which make up one set together;
operators between them stand for the operations on sets.
-/

open Text

/-! ### Operators -/

inductive Operator where
  | intersection
  | difference
  | symmetricDifference
  deriving DecidableEq, Repr

def Operator.apply (a b : Ranges) : Operator → Ranges
  | intersection => a.inter b
  | difference => a.diff b
  | symmetricDifference => a.symmDiff b

/-- The set of all that stands in brackets, after a `^` the set of all other characters. Without
characters beyond ASCII there is no such set. -/
def Setting.enclosed? (s : Setting) (negated : Bool) (set : Ranges) : Option Ranges :=
  if negated && !s.unicode then none else some (.signed negated (s.fold set))

/-!
### Open brackets

Brackets are read from left to right without recursion: the bracket that is being read and those
around it are on a stack. What stands between two operators is collected as items.
-/

/-- The depth of what holds things of the given depths: of one thing its own, and of several, which
make a level of their own, one more than the greatest. -/
def depthOf : List Nat → Nat
  | [] => 0
  | [depth] => depth
  | depths => depths.foldl max 0 + 1

/-- A set and how deep brackets and operators are nested in its text. -/
structure NestedSet where
  set : Ranges
  depth : Nat

/-- A bracket that has not been closed yet. -/
structure Bracket where
  negated : Bool
  /-- The set in front of the last operator, and that operator. -/
  front : Option (NestedSet × Operator)
  /-- The sets that stand behind it, the last one first. -/
  items : List NestedSet

namespace Bracket

/-! ### Growing brackets -/

def add (b : Bracket) (set : Ranges) : Bracket :=
  { b with items := { set, depth := 0 } :: b.items }

def addBracket (b : Bracket) (inner : NestedSet) : Bracket := { b with items := inner :: b.items }

/-- What stands behind the last operator. -/
def back (b : Bracket) : NestedSet :=
  { set := .ofList (b.items.flatMap (·.set)), depth := depthOf (b.items.map (·.depth)) }

def content (s : Setting) (b : Bracket) : NestedSet :=
  match b.front with
  | none => b.back
  | some (front, o) =>
    -- Operators have no precedence: what is in front of one is its first operand.
    { set := o.apply (s.fold front.set) (s.fold b.back.set),
      depth := max front.depth b.back.depth + 1 }

def operate (s : Setting) (b : Bracket) (o : Operator) : Bracket :=
  { b with front := some (b.content s, o), items := [] }

def closed? (s : Setting) (b : Bracket) : Option NestedSet :=
  (s.enclosed? b.negated (b.content s).set).map ({ set := ·, depth := (b.content s).depth + 1 })

/-! ### Reading -/

/-- Takes minus signs that stand for themselves to the items of a bracket. -/
def minusSigns (s : Setting) (b : Bracket) (text : List Char) : Bracket × List Char :=
  match text with
  | '-' :: rest =>
    have : (s.skip rest).length < rest.length + 1 := Nat.lt_succ_of_le (s.length_skip_le rest)
    minusSigns s (b.add (.single '-')) (s.skip rest)
  | _ => (b, text)
termination_by text.length

/-- Reads the beginning of a bracket after the sign for all other characters: minus signs or a
closing bracket that stand for themselves. -/
def beginItems (s : Setting) (negated : Bool) (text : List Char) : Bracket × List Char :=
  let b : Bracket := { negated, front := none, items := [] }
  match text with
  | ']' :: rest => (b.add (.single ']'), rest)
  | _ => minusSigns s b text

def begin (s : Setting) (text : List Char) : Bracket × List Char :=
  match s.skip text with
  | '^' :: rest => beginItems s true (s.skip rest)
  | text => beginItems s false text

/-- Reads the rest of an ASCII class such as `[:alpha:]` behind its opening bracket: whether it is
negated, and the class. -/
def ascii? (text : List Char) : Option (Bool × Ranges × List Char) := do
  let rest ← after? [':'] text
  let negated := (after? ['^'] rest).isSome
  let rest := (after? ['^'] rest).getD rest
  let set ← asciiClass? (String.ofList (rest.takeWhile (· != ':')))
  return (negated, set, ← after? [':', ']'] (rest.dropWhile (· != ':')))

def item? (s : Setting) : List Char → Option (Escape × List Char)
  | [] => none
  | '\\' :: rest => Escape.read? s rest
  | c :: rest => some (.character c false, rest)

/-- The character that a minus sign is followed by for the question whether it makes a range. Where
blanks are ignored a number sign is passed over with them, and not the comment behind it. -/
def afterMinus? (s : Setting) (text : List Char) : Option Char :=
  if s.ignoreBlanks then
    match trimStart text with
    | '#' :: rest => (trimStart rest).head?
    | text => text.head?
  else text.head?

/-- Reads an item or a range between two of them. A minus sign in front of another one or of the
closing bracket makes no range. -/
def range? (s : Setting) (text : List Char) : Option (Ranges × List Char) := do
  let (first, rest) ← item? s text
  match s.skip rest with
  | '-' :: tail =>
    if afterMinus? s tail = some ']' ∨ afterMinus? s tail = some '-' then
      return (← first.set? s, rest)
    else
      let (last, rest) ← item? s (s.skip tail)
      let a ← first.char? s
      let b ← last.char? s
      if a ≤ b then return (.between a b, rest) else none
  | _ => return (← first.set? s, rest)

inductive Progress where
  | inside (b : Bracket) (outer : List Bracket)
  | complete (set : NestedSet)

def step? (s : Setting) (b : Bracket) (outer : List Bracket) (text : List Char) :
    Option (Progress × List Char) :=
  match s.skip text with
  | [] => none  -- the bracket is never closed
  | '[' :: rest =>
    match ascii? rest with
    | some (negated, set, rest) =>
      (s.enclosed? negated set).map fun set => (.inside (b.add set) outer, rest)
    -- What looks like a class and is none is read as a bracket.
    | none =>
      let (inner, rest) := begin s rest
      some (.inside inner (b :: outer), rest)
  | ']' :: rest => do
    let set ← b.closed? s
    match outer with
    | [] => return (.complete set, rest)
    | parent :: outer => return (.inside (parent.addBracket set) outer, rest)
  | '&' :: '&' :: rest => some (.inside (b.operate s .intersection) outer, rest)
  | '-' :: '-' :: rest => some (.inside (b.operate s .difference) outer, rest)
  | '~' :: '~' :: rest => some (.inside (b.operate s .symmetricDifference) outer, rest)
  | text => (range? s text).map fun r => (.inside (b.add r.1) outer, r.2)

/-- Reads the rest of a bracket in others up to the end of the outermost, in at most `count`
steps. -/
def readRest? (s : Setting) (b : Bracket) (outer : List Bracket) (count : Nat)
    (text : List Char) : Option (NestedSet × List Char) :=
  match count with
  | 0 => none
  | count + 1 =>
    match step? s b outer text with
    | none => none
    | some (.complete set, rest) => some (set, rest)
    | some (.inside b outer, rest) => readRest? s b outer count rest

/-- Reads a set behind its opening bracket. Each step takes a character at least. -/
def read? (s : Setting) (text : List Char) : Option (NestedSet × List Char) :=
  let (b, rest) := begin s text
  readRest? s b [] (rest.length + 1) rest

end Bracket

/-!
## Groups and repetition

Outside of brackets a pattern is read in the same way: the innermost group and those around it are
on a stack, and signs for repetition change the last item of the group.
-/

/-! ### Items and groups -/

/-- A part of a pattern that has been read. -/
structure Item where
  pattern : Pattern
  /-- How deep groups, brackets, repetitions, sequences and alternatives are nested in its text. -/
  depth : Nat := 0
  /-- Whether it can be repeated. A change of settings cannot. -/
  isRepeatable : Bool := true

def maxDepth : Nat := 250

def Item.sequence (items : List Item) : Item :=
  { pattern := Pattern.sequence (items.map (·.pattern)), depth := depthOf (items.map (·.depth)) }

def Item.alternatives (items : List Item) : Item :=
  { pattern := Pattern.alternatives (items.map (·.pattern)),
    depth := depthOf (items.map (·.depth)) }

/-- A group that has not been closed yet. -/
structure Group where
  /-- The number of the group, if it has one. -/
  number : Option Nat
  /-- The settings that are in force behind the group. -/
  outside : Setting
  /-- The alternatives in front of the last bar, the last one first. -/
  branches : List Item
  /-- What stands behind that bar, the last item first. -/
  items : List Item

namespace Group

def branch (g : Group) : Item := .sequence g.items.reverse

def content (g : Group) : Item := .alternatives (g.branch :: g.branches).reverse

def item (g : Group) : Item :=
  { pattern :=
      match g.number with
      | none => g.content.pattern
      | some number => .group number g.content.pattern
    depth := g.content.depth + 1 }

end Group

/-! ### Drafts -/

/-- A pattern that has been read in part. -/
structure Draft where
  setting : Setting
  group : Group
  /-- The groups around the innermost one, from the inside out. -/
  outer : List Group
  /-- How many groups have got a number. -/
  numbered : Nat
  /-- The names of groups. -/
  names : List (List Char)

namespace Draft

def start : Draft :=
  { setting := {}, group := { number := none, outside := {}, branches := [], items := [] },
    outer := [], numbered := 0, names := [] }

/-! ### Growing a draft -/

def push (d : Draft) (item : Item) : Draft :=
  { d with group := { d.group with items := item :: d.group.items } }

def pushPattern (d : Draft) (pattern : Pattern) : Draft := d.push { pattern }

def bar (d : Draft) : Draft :=
  { d with group :=
      { d.group with branches := d.group.branch :: d.group.branches, items := [] } }

def enter (d : Draft) (s : Setting) : Draft :=
  { d with
    setting := s
    group := { number := none, outside := d.setting, branches := [], items := [] }
    outer := d.group :: d.outer }

/-- The draft with an open group at its end that gets a number. -/
def enterNumbered (d : Draft) : Draft :=
  let d := d.enter d.setting
  { d with
    group := { d.group with number := some (d.numbered + 1) }
    numbered := d.numbered + 1 }

def leave? (d : Draft) : Option Draft :=
  match d.outer with
  | [] => none
  | parent :: outer =>
    some { d with
      setting := d.group.outside
      group := { parent with items := d.group.item :: parent.items }
      outer }

/-- The pattern, if all groups are closed and it is not nested too deep. -/
def pattern? (d : Draft) : Option Pattern :=
  if d.outer.isEmpty && decide (d.group.content.depth ≤ maxDepth) then some d.group.content.pattern
  else none

def repeat? (d : Draft) (least : Nat) (most : Option Nat) (rarely : Bool) : Option Draft :=
  match d.group.items with
  | [] => none
  | item :: items =>
    if item.isRepeatable then
      let repeated : Item :=
        { pattern := item.pattern.times least most rarely, depth := item.depth + 1 }
      some { d with group := { d.group with items := repeated :: items } }
    else none

/-! ### Groups -/

def isNameChar (c : Char) : Bool :=
  "_.[]".toList.contains c || isLetter c || decimalNumberRanges.has c || letterNumberRanges.has c
    || otherNumberRanges.has c || recentNumeralRanges.has c

def isName : List Char → Bool
  | [] => false
  | c :: rest => (c == '_' || isLetter c) && rest.all isNameChar

/-- Reads the name of a group and enters the group. No two groups may have one name. -/
def enterNamed? (d : Draft) (text : List Char) : Option (Draft × List Char) :=
  let name := text.takeWhile (· != '>')
  match text.dropWhile (· != '>') with
  | [] => none
  | _ :: rest =>
    if isName name && !d.names.contains name then
      some ({ d.enterNumbered with names := name :: d.names }, rest)
    else none

def open? (d : Draft) (text : List Char) : Option (Draft × List Char) :=
  match d.setting.skip text with
  -- Looking around, and a group without anything in it.
  | '?' :: '=' :: _ | '?' :: '!' :: _ | '?' :: '<' :: '=' :: _ | '?' :: '<' :: '!' :: _
  | '?' :: ')' :: _ => none
  | '?' :: 'P' :: '<' :: rest | '?' :: '<' :: rest => d.enterNamed? rest
  | '?' :: rest =>
    match d.setting.readLetters [] rest with
    | some (s, ':' :: rest) => some (d.enter s, rest)
    -- A closing parenthesis: the settings change for the rest of the group around.
    | some (s, _ :: rest) =>
      some ({ d with setting := s }.push { pattern := .empty, isRepeatable := false }, rest)
    | _ => none
  | rest => some (d.enterNumbered, rest)

/-! ### Repetition -/

/-- Numbers are smaller than this. -/
def countBound : Nat := 0x100000000

def digit? : List Char → Option (Nat × List Char)
  | [] => none
  | c :: rest => if c.isDigit then some (c.toNat - '0'.toNat, rest) else none

def moreDigits (s : Setting) (n : Nat) (text : List Char) : Nat × List Char :=
  match text with
  | [] => (n, [])
  | c :: rest =>
    if c.isDigit then
      have : (s.skip rest).length < rest.length + 1 := Nat.lt_succ_of_le (s.length_skip_le rest)
      moreDigits s (n * 10 + (c.toNat - '0'.toNat)) (s.skip rest)
    else (n, c :: rest)
termination_by text.length

/-- Reads a number, with blanks around it. -/
def count? (s : Setting) (text : List Char) : Option (Nat × List Char) := do
  let (d, rest) ← digit? (trimStart text)
  let (n, rest) := moreDigits s d (s.skip rest)
  if n < countBound then return (n, s.skip (trimStart rest)) else none

/-- Reads the bounds of a repetition and the closing brace. -/
def bounds? (s : Setting) (text : List Char) : Option (Nat × Option Nat × List Char) := do
  let (least, rest) ← count? s (s.skip text)
  match rest with
  | '\x7D' :: rest => return (least, some least, rest)
  | ',' :: rest =>
    match s.skip rest with
    | '\x7D' :: rest => return (least, none, rest)
    | rest =>
      let (most, rest) ← count? s rest
      match rest with
      | '\x7D' :: rest => if least ≤ most then return (least, some most, rest) else none
      | _ => none
  | _ => none

/-- Reads the end of a repetition and repeats the last item. A question mark asks for the contrary
of what the settings say on whether repetitions are rare. -/
def finishRepeat? (d : Draft) (least : Nat) (most : Option Nat) (text : List Char) :
    Option (Draft × List Char) :=
  match text with
  | '?' :: rest => (d.repeat? least most (!d.setting.rarely)).map (·, rest)
  | _ => (d.repeat? least most d.setting.rarely).map (·, text)

/-! ### Reading -/

def escaped? (s : Setting) : Escape → Option Pattern
  | .character c byte =>
    if byte && !s.unicode && decide (0x80 ≤ c.toNat) then none else some (s.literal c)
  | .set chars => some (ofSet chars)
  | .condition c => some (.condition c)

def step? (d : Draft) (text : List Char) : Option (Draft × List Char) :=
  match text with
  | [] => none
  | c :: rest =>
    match c with
    | '(' => d.open? rest
    | ')' => d.leave?.map (·, rest)
    | '|' => some (d.bar, rest)
    | '[' => (Bracket.read? d.setting rest).map fun r =>
        (d.push { pattern := ofSet r.1.set, depth := r.1.depth }, r.2)
    -- A sign for repetition without an item in front is an error.
    | '*' => d.finishRepeat? 0 none rest
    | '+' => d.finishRepeat? 1 none rest
    | '?' => d.finishRepeat? 0 (some 1) rest
    | '\x7B' => do
      let (least, most, rest) ← bounds? d.setting rest
      d.finishRepeat? least most (d.setting.skip rest)
    | '.' => d.setting.dot?.map fun p => (d.pushPattern p, rest)
    | '^' => some (d.pushPattern (.condition d.setting.start), rest)
    | '$' => some (d.pushPattern (.condition d.setting.finish), rest)
    | '\\' => do
      let (e, rest) ← Escape.read? d.setting rest
      return (d.pushPattern (← escaped? d.setting e), rest)
    | _ => some (d.pushPattern (d.setting.literal c), rest)

/-- Reads the rest of a pattern, in `count` steps at most. -/
def readRest? (d : Draft) (count : Nat) (text : List Char) : Option Pattern :=
  match count, d.setting.skip text with
  | _, [] => d.pattern?
  | 0, _ => none
  | count + 1, text =>
    match d.step? text with
    | none => none
    | some (d, rest) => d.readRest? count rest

end Draft

/-- The pattern that a text spells out, if its search programs are not too large. Each step of
reading takes a character at least. -/
def ofText? (text : String) : Option Pattern :=
  (Draft.start.readRest? text.length text.toList).filter fits

end ModuleReadme.Pattern
