import ModuleReadme.Log.Event
import ModuleReadme.Pattern.Notation
import ModuleReadme.Text.Line
import ModuleReadme.Text.Terminal

/-!
# What is shown of a log

A filter decides which events of a log are shown, and an event that is shown is written as a record.
-/

namespace ModuleReadme

/-!
## Filters

A filter has directives such as `info` or `readme_from_source::cli=debug`, separated by commas. Of
the directives whose target is a prefix of the component of an event the one with the longest target
decides; an event for which no directive speaks is left out. Behind a slash a filter can have a
pattern, which the message of an event has to match as well.
-/

/-- What a directive lets through: events of some rank at most. A rank of zero lets nothing
through. -/
structure Directive where
  target : Option String
  rank : Nat
  deriving DecidableEq, Repr

namespace Directive

open Text

/-! ### Reading a directive -/

/-- The length of what a directive matches, if it speaks for a component. -/
def matchLength? (component : String) (d : Directive) : Option Nat :=
  match d.target with
  | none => some 0
  | some target =>
    if target.toList.isPrefixOf component.toList then some target.utf8ByteSize else none

/-- The rank for the name of a level, in any case. `off` is a level as well. -/
def rank? (name : List Char) : Option Nat :=
  match String.ofList (name.map Char.toLower) with
  | "off" => some 0
  | "error" => some Level.error.rank
  | "warn" => some Level.warn.rank
  | "info" => some Level.info.rank
  | "debug" => some Level.debug.rank
  | "trace" => some Level.trace.rank
  | _ => none

/-- The directive that a piece between commas spells out: a level for everything, or a target with
or without a level. Without a level everything from the target is let through. -/
def ofPiece? (piece : List Char) : Option Directive :=
  match piece.splitOn '=' with
  | [only] =>
    -- A word by itself is a level if it can be one.
    match rank? only with
    | some rank => some { target := none, rank }
    | none => some { target := some (String.ofList only), rank := Level.trace.rank }
  | [target, level] =>
    if (trim level).isEmpty then
      some { target := some (String.ofList target), rank := Level.trace.rank }
    else (rank? (trim level)).map ({ target := some (String.ofList target), rank := · })
  | _ => none  -- a second equals sign

/-! ### Lists of directives -/

/-- The directives with another one, which takes the place of the one for the same target. -/
def insert (directive : Directive) : List Directive → List Directive
  | [] => [directive]
  | d :: rest =>
    if d.target = directive.target then directive :: rest else d :: insert directive rest

/-- The directives that a text spells out. Pieces that spell out none are passed over. -/
def ofText (text : List Char) : List Directive :=
  ((((text.splitOn ',').map trim).filter (!·.isEmpty)).filterMap ofPiece?).foldl
    (fun directives d => insert d directives) []

/-- The rank up to which directives let events of a component through. -/
def rankFor (directives : List Directive) (component : String) : Nat :=
  -- The longest match so far with its rank; among equally long ones the last decides.
  (directives.foldl (fun best d =>
    match d.matchLength? component with
    | none => best
    | some length => if best.1 ≤ length then (length, d.rank) else best) (0, 0)).2

end Directive

/-! ### The filter -/

structure Filter where
  directives : List Directive
  pattern : Option Pattern

namespace Filter

/-- The filter that a text spells out. A second slash makes the whole text void, and a pattern that
cannot be read is left out. -/
def ofText (text : String) : Filter :=
  match text.toList.splitOn '/' with
  | [directives] => { directives := Directive.ofText directives, pattern := none }
  | [directives, pattern] =>
    { directives := Directive.ofText directives,
      pattern := Pattern.ofText? (String.ofList pattern) }
  | _ => { directives := [], pattern := none }

def insert (directive : Directive) (filter : Filter) : Filter :=
  { filter with directives := directive.insert filter.directives }

/-- The rank up to which events of a component are let through. A filter without directives lets
errors through. -/
def rankFor (filter : Filter) (component : String) : Nat :=
  if filter.directives.isEmpty then Level.error.rank
  else Directive.rankFor filter.directives component

def admits (filter : Filter) (e : Event) : Bool :=
  decide (e.level.rank ≤ filter.rankFor e.target)
    && filter.pattern.all fun p => p.occursIn e.message

def apply (filter : Filter) (events : List Event) : List Event := events.filter filter.admits

end Filter

/-- The events of a level or one that matters more. -/
def Level.select (level : Level) (events : List Event) : List Event :=
  events.filter fun e => decide (e.level.rank ≤ level.rank)

/-!
## Records

An event is written to the log as a record: a header and the message, of which the lines after the
first are indented. Nothing of it can control a terminal that shows the log.
-/

namespace Event

def recordText (e : Event) : String :=
  -- The line feed is shown like the rest, so a sequence that is left open can swallow it.
  String.ofList (Text.Terminal.shown (Text.hanging 4 e.message.toList ++ ['\n']))

/-- The first line of the record of an event: its level and what stands in the first line of the
message. A carriage return at the end belongs to the end of the line. -/
def recordLine (e : Event) : String :=
  let line := e.recordText.toList.takeWhile (· != '\n')
  e.level.name ++ " "
    ++ String.ofList (if line.getLast? = some '\r' then line.dropLast else line)

end Event

end ModuleReadme
