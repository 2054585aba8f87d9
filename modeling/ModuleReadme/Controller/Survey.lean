import ModuleReadme.Controller.Annotation
import ModuleReadme.Controller.Declaration
import ModuleReadme.Text.Line

/-!
# Surveying a controller

A source text that carries a controller marker is surveyed line by line. Each line of the body is
looked at together with the lines above and below it (`Site`); a line with a mapping gives a
`Finding`, which is an endpoint if a handler follows within reach.
-/

namespace ModuleReadme.Controller

/-!
## Summaries

An endpoint is summed up by the first line of text in the block comment above its mapping. Between
comment and mapping there may be blank lines and annotations. Lines are given from the mapping
upwards, so that the nearest line comes first.
-/

open Text

/-! ### The comment -/

/-- How many lines above a mapping its comment is looked for. -/
def summaryReach : Nat := 10

/-- Blank lines and annotations may stand between a comment and what it comments on. -/
def isPassedOver (line : Line) : Bool := (trim line).isEmpty || (trim line).head? == some '@'

def endsComment (line : Line) : Bool := "*/".toList.isSuffixOf (trim line)

def beginsComment (line : Line) : Bool := "/*".toList.isPrefixOf (trim line)

/-- The lines through the first that satisfies `p`, or all of them if none does. -/
def takeThrough (p : Line → Bool) : List Line → List Line
  | [] => []
  | line :: rest => if p line then [line] else line :: takeThrough p rest

/-!
### The text of a comment

The marks of a comment are the slash and the stars in front of a line and the mark at its end. A
line that holds nothing else has no text.
-/

/-- The text of a line of a comment, without the marks of the comment. -/
def commentText (line : Line) : List Char :=
  -- The closing mark goes first, so that nothing is left of a line `*/`.
  let unclosed := if "*/".toList.isSuffixOf line then line.dropLast.dropLast else line
  trim ((unclosed.dropWhile (· == '/')).dropWhile (· == '*'))

/-- The text of a line of a comment, if there is any and it is no tag such as `@param`. -/
def summaryText? (line : Line) : Option (List Char) :=
  match commentText (trim line) with
  | [] => none
  | c :: text => if c = '@' then none else some (c :: text)

/-- The lines of the comment that ends nearest above a mapping, from its last line upwards. -/
def commentAbove (above : List Line) : List Line :=
  -- The reach is counted from the mapping, so passing over lines uses it up.
  match (above.take summaryReach).dropWhile isPassedOver with
  | [] => []
  | line :: rest => if endsComment line then takeThrough beginsComment (line :: rest) else []

def summaryAbove (above : List Line) : List Char :=
  -- The comment was walked upwards, and is read downwards.
  ((commentAbove above).reverse.findSome? summaryText?).getD []

/-! ## Sites -/

def markers : List (List Char) := ["@RestController".toList, "@Controller".toList]

def isMarked (text : List Char) : Bool := markers.any (Text.contains text)

/-! ### Lines in their surroundings -/

/-- A line of a text with the lines above it, the nearest first, and the lines below it. -/
structure Site where
  above : List Line
  line : Line
  below : List Line

/-- The sites of the lines `rest`, above which there are the lines `above`. -/
def sitesBelow (above : List Line) : List Line → List Site
  | [] => []
  | line :: rest => ⟨above, line, rest⟩ :: sitesBelow (line :: above) rest

def sites (ls : List Line) : List Site := sitesBelow [] ls

@[simp] theorem length_sitesBelow (above ls : List Line) :
    (sitesBelow above ls).length = ls.length := by
  induction ls generalizing above with
  | nil => rfl
  | cons line rest ih => simp [sitesBelow, ih]

theorem getElem?_sitesBelow (above ls : List Line) (i : Nat) :
    (sitesBelow above ls)[i]? =
      ls[i]?.map fun line => ⟨(ls.take i).reverse ++ above, line, ls.drop (i + 1)⟩ := by
  induction ls generalizing above i with
  | nil => simp [sitesBelow]
  | cons line rest ih =>
    cases i with
    | zero => simp [sitesBelow]
    | succ i => simp [sitesBelow, ih (line :: above) i]

/-!
### Findings

A route whose handler is not found is no endpoint. It is kept as a finding all the same, for the
log.
-/

inductive Finding where
  | endpoint (e : Endpoint)
  /-- A route for which no handler was found. -/
  | unhandled (route : String)
  deriving DecidableEq, Repr

def Finding.endpoint? : Finding → Option Endpoint
  | .endpoint e => some e
  | .unhandled _ => none

/-- What the mapping on a line leads to, if there is one. -/
def Site.finding? (base : List Char) (site : Site) : Option Finding :=
  (Mapping.ofLine? site.line).map fun (mapping, route) =>
    match handlerBelow? site.below with
    | none => .unhandled (String.ofList route)
    | some handler => .endpoint {
        handler := String.ofList handler
        path := String.ofList (joinRoute base route)
        method := mapping.method site.line
        parameters := parametersBelow site.below
        summary := String.ofList (summaryAbove site.above) }

/-!
## Surveys

Mappings in the header are the prefix of all routes, so only the body is searched for endpoints. The
sites of the body still see the lines of the header above them.
-/

/-- What is found in a text that carries a controller marker. -/
structure Survey where
  basePath : String
  findings : List Finding
  deriving DecidableEq, Repr

/-- The header of a text: the lines through the class declaration, or the whole text if there is
none. -/
def headerOf (text : List Char) : List Char :=
  match (lines text).findIdx? isClassDeclaration with
  | some i => unlines ((lines text).take (i + 1))
  | none => text

/-- The sites of the body of a text: the lines below the class declaration, or all of them if there
is none. -/
def bodySites (text : List Char) : List Site :=
  match (lines text).findIdx? isClassDeclaration with
  -- The sites are made first, so that those of the body keep the header above them.
  | some i => (sites (lines text)).drop (i + 1)
  | none => sites (lines text)

def survey? (text : List Char) : Option Survey :=
  if isMarked text then
    let base := basePathOf (headerOf text)
    some {
      basePath := String.ofList base
      findings := (bodySites text).filterMap (Site.finding? base) }
  else none

def Survey.controller (name : String) (survey : Survey) : Controller where
  name
  basePath := survey.basePath
  endpoints := survey.findings.filterMap Finding.endpoint?

def ofText? (name : String) (text : String) : Option Controller :=
  (survey? text.toList).map (·.controller name)

end ModuleReadme.Controller
