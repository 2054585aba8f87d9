import ModuleReadme.Text.Search
import ModuleReadme.Text.Word

/-!
# Patterns

A pattern describes texts: characters of a set one after the other, alternatives, repetitions and
conditions on the place. `Pattern.advance` takes a set of positions in a text to the set of all
positions that are reached from there by passing what the pattern describes. A text matches a
pattern if any position is reached from any position.
-/

namespace ModuleReadme

open Text

/-! ### What patterns describe -/

/-- A place that is told by the word characters around it. -/
inductive Pattern.WordPlace where
  | boundary
  | notBoundary
  | start
  | finish
  /-- No word character in front. -/
  | startHalf
  /-- No word character behind. -/
  | finishHalf
  deriving DecidableEq, Repr

inductive Pattern.Condition where
  | textStart
  | textEnd
  | lineStart
  | lineEnd
  /-- The start of a line, where a carriage return ends lines as well. -/
  | lineStartAfterReturn
  /-- The end of a line, where a carriage return ends lines as well. -/
  | lineEndBeforeReturn
  /-- A place at words, whose characters may be beyond ASCII or not. -/
  | word (place : WordPlace) (unicode : Bool)
  deriving DecidableEq, Repr

/-- A description of texts. -/
inductive Pattern where
  | empty
  /-- Characters that stand for themselves. -/
  | literal (chars : List Char)
  /-- A character of a set. -/
  | oneOf (set : Ranges)
  | condition (c : Pattern.Condition)
  | followedBy (p q : Pattern)
  | either (p q : Pattern)
  /-- The pattern at least `least` times and at most `most` times, if there is a bound. Whether it
  is to be repeated rarely or often has no bearing on whether a text matches. -/
  | repeated (p : Pattern) (least : Nat) (most : Option Nat) (rarely : Bool)
  /-- A numbered group. -/
  | group (number : Nat) (p : Pattern)
  deriving DecidableEq, Repr

namespace Pattern

/-!
### Positions

A position is known by its offset; the characters around it are kept along, since conditions look at
both sides. A set of positions is a list in the order of the text without repetitions.
-/

structure Position where
  offset : Nat
  before : Option Char
  after : List Char

/-- The positions of a text from the given one on. -/
def positionsFrom (offset : Nat) (before : Option Char) : List Char → List Position
  | [] => [{ offset, before, after := [] }]
  | c :: text => { offset, before, after := c :: text } :: positionsFrom (offset + 1) (some c) text

def positions (text : List Char) : List Position := positionsFrom 0 none text

/-- Two sets of positions put together. Sets of positions are lists in the order of the text. -/
def merge : List Position → List Position → List Position
  | [], qs => qs
  | p :: ps, [] => p :: ps
  | p :: ps, q :: qs =>
    if p.offset < q.offset then p :: merge ps (q :: qs)
    else if q.offset < p.offset then q :: merge (p :: ps) qs
    else p :: merge ps qs  -- one position, so it is kept once
termination_by ps qs => ps.length + qs.length

/-- The position behind the next character, if that is in a set. -/
def Position.pass? (set : Ranges) (p : Position) : Option Position :=
  match p.after with
  | [] => none
  | c :: rest =>
    if set.has c then some { offset := p.offset + 1, before := some c, after := rest } else none

theorem Position.pass?_eq_some_iff {set : Ranges} {p q : Position} :
    p.pass? set = some q ↔
      ∃ c rest, p.after = c :: rest ∧ set.has c = true ∧
        q = { offset := p.offset + 1, before := some c, after := rest } := by
  cases hp : p.after with
  | nil => simp [pass?, hp]
  | cons c rest =>
    by_cases hc : set.has c = true
    · simp only [pass?, hp, hc, ↓reduceIte, Option.some.injEq]
      constructor
      · rintro rfl
        exact ⟨c, rest, rfl, hc, rfl⟩
      · rintro ⟨_, _, h, _, rfl⟩
        cases h
        rfl
    · simp [pass?, hp, hc]

/-- The position behind some characters, if they come next. -/
def Position.passAll? (chars : List Char) (p : Position) : Option Position :=
  (after? chars p.after).map fun rest =>
    { offset := p.offset + chars.length, before := chars.getLast?.or p.before, after := rest }

/-!
### Conditions

A condition passes nothing. Whether it holds is told by the characters in front of a position and
behind it, which are missing at the ends of the text.
-/

def isWordChar (unicode : Bool) (c : Char) : Bool :=
  if unicode then isWord c else c.isAlphanum || c == '_'

/-- Whether a place is between a character that belongs to a word or not, and another such. -/
def WordPlace.holds (before after : Bool) : WordPlace → Bool
  | boundary => before != after
  | notBoundary => before == after
  | start => !before && after
  | finish => before && !after
  | startHalf => !before
  | finishHalf => !after

def Condition.holds (before after : Option Char) : Condition → Bool
  | textStart => before.isNone
  | textEnd => after.isNone
  | lineStart => before.isNone || before == some '\n'
  | lineEnd => after.isNone || after == some '\n'
  -- A carriage return and a line feed behind it end a line together.
  | lineStartAfterReturn =>
    before.isNone || before == some '\n' || (before == some '\r' && after != some '\n')
  | lineEndBeforeReturn =>
    after.isNone || after == some '\r' || (after == some '\n' && before != some '\r')
  | word place unicode =>
    place.holds (before.any (isWordChar unicode)) (after.any (isWordChar unicode))

/-!
### Matching

All ways through a pattern are followed at the same time, so nothing has to be tried again. The
order in which a search would try them has no bearing on whether there is a match at all, and is
left out.
-/

def iterate (step : List Position → List Position) : Nat → List Position → List Position
  | 0, ps => ps
  -- From no position no step leads on.
  | n + 1, ps => if ps.isEmpty then ps else iterate step n (step ps)

/-- A step on sets of positions, taken `n` times at most. -/
def upTo (step : List Position → List Position) : Nat → List Position → List Position
  | 0, ps => ps
  | n + 1, ps =>
    let qs := merge ps (step ps)
    -- If no position was added, none will be.
    if qs.length = ps.length then ps else upTo step n qs

/-- More steps than this, each of which passes something or nothing, reach no further. -/
def stepBound : List Position → Nat
  | [] => 0
  | p :: _ => p.after.length + 1

/-- The positions that are reached from some positions by passing what a pattern describes. -/
def advance : Pattern → List Position → List Position
  | empty, ps => ps
  | literal chars, ps => ps.filterMap (·.passAll? chars)
  | oneOf set, ps => ps.filterMap (·.pass? set)
  | condition c, ps => ps.filter fun p => c.holds p.before p.after.head?
  | followedBy p q, ps => q.advance (p.advance ps)
  | either p q, ps => merge (p.advance ps) (q.advance ps)
  | repeated p least most _, ps =>
    let start := iterate p.advance (min least (stepBound ps)) ps
    match most with
    | none => upTo p.advance (stepBound ps) start
    | some most => upTo p.advance (min (most - least) (stepBound ps)) start
  | group _ p, ps => p.advance ps

def occursIn (p : Pattern) (text : String) : Bool :=
  !(p.advance (positions text.toList)).isEmpty

end Pattern

end ModuleReadme

namespace ModuleReadme.Pattern

/-!
## Simplification

Patterns are put together in a simple form: no sequence holds another one or what is empty,
neighbouring characters make one literal, alternatives hold no alternatives, and alternatives that
are single characters or sets of characters make one set. How large the search program of a pattern
becomes hangs on this form; which texts match does not.
-/

open Text

def ofSet (set : Ranges) : Pattern :=
  match set with
  | [(first, last)] => if first = last then literal [Char.ofNat first] else oneOf set
  | _ => oneOf set

/-! ### Length -/

/-- Whether a pattern describes the empty text at most, whatever its conditions. A set without
characters does not count, since there is no text that it describes. -/
def isPoint : Pattern → Bool
  | empty => true
  | literal _ => false
  | oneOf _ => false
  | condition _ => true
  | followedBy p q => p.isPoint && q.isPoint
  | either p q => p.isPoint && q.isPoint
  | repeated p _ most _ => most.isSome && p.isPoint
  | group _ p => p.isPoint

/-! ### Sequences -/

def items : Pattern → List Pattern
  | followedBy p q => p :: q.items
  | p => [p]

/-- One pattern after the other, as they are. -/
def chain : List Pattern → Pattern
  | [] => empty
  | [p] => p
  | p :: rest => followedBy p (chain rest)

/-- The items of a sequence with another one in front. -/
def prepend (p : Pattern) (rest : List Pattern) : List Pattern :=
  match p, rest with
  | empty, rest => rest
  | literal a, literal b :: rest => literal (a ++ b) :: rest
  | p, rest => p :: rest

def sequence (ps : List Pattern) : Pattern := chain ((ps.flatMap items).foldr prepend [])

/-! ### Alternatives -/

def branches : Pattern → List Pattern
  | either p q => p :: q.branches
  | p => [p]

/-- One of some patterns, as they are. There is no text for a choice of nothing. -/
def choice : List Pattern → Pattern
  | [] => oneOf []
  | [p] => p
  | p :: rest => either p (choice rest)

def singleRange? : Pattern → Option (Nat × Nat)
  | literal [c] => some (c.toNat, c.toNat)
  | _ => none

def set? : Pattern → Option Ranges
  | oneOf set => some set
  | _ => none

/-- The set of which alternatives are the characters, if all are single characters or all are
sets. -/
def commonSet? (ps : List Pattern) : Option Ranges :=
  match ps.mapM singleRange? with
  | some ranges => some (.ofList ranges)
  | none => (ps.mapM set?).map .unions

/-- What two lists have in common at their beginnings. -/
def commonFront : List Pattern → List Pattern → List Pattern
  | p :: ps, q :: qs => if p = q then p :: commonFront ps qs else []
  | _, _ => []

def isSequence : Pattern → Bool
  | followedBy _ _ => true
  | _ => false

/-- The items that alternatives begin with, if all are sequences. -/
def sharedItems : List Pattern → List Pattern
  | [] => []
  | p :: rest =>
    if (p :: rest).all isSequence then rest.foldl (fun front q => commonFront front q.items) p.items
    else []

def weight : Pattern → Nat
  | followedBy p q | either p q => p.weight + q.weight
  | repeated p _ _ _ | group _ p => p.weight + 1
  | _ => 1

/-- One of some patterns, with the items in front that all of them begin with. What follows these is
simplified in turn, at most `depth` times. -/
def alternativesWithin : Nat → List Pattern → Pattern
  | 0, ps => choice ps
  | depth + 1, ps =>
    match ps.flatMap branches with
    | [p] => p
    | ps =>
      match commonSet? ps, sharedItems ps with
      | some set, _ => ofSet set
      | none, [] => choice ps
      | none, front =>
        let rests := ps.map fun p => sequence (p.items.drop front.length)
        sequence (front ++ [alternativesWithin depth rests])

def alternatives (ps : List Pattern) : Pattern := alternativesWithin (choice ps).weight ps

/-! ### Repetition -/

/-- A pattern at least `least` times and at most `most` times, if there is a bound. What passes
nothing is not repeated. -/
def times (p : Pattern) (least : Nat) (most : Option Nat) (rarely : Bool) : Pattern :=
  let least := if p.isPoint then min least 1 else least
  let most := if p.isPoint then some (min (most.getD 1) 1) else most
  if least = 0 ∧ most = some 0 then empty
  else if least = 1 ∧ most = some 1 then p
  else repeated p least most rarely

end ModuleReadme.Pattern
