import ModuleReadme.Endpoint
import ModuleReadme.Text.Line
import ModuleReadme.Text.Search
import ModuleReadme.Text.Word

/-!
# Annotations

Routes and parameters are written down in annotations. What is taken from an annotation is always a
literal between quotes; the rest of the annotation only has to be passed over.
-/

namespace ModuleReadme.Controller

/-!
## Quoted literals

The arguments of an annotation hold literals between quotes. Single and double quotes count the
same, and the closing quote may be of the other kind than the opening one: a literal is whatever
stands between one quote and the next.
-/

open Text

def isQuote (c : Char) : Bool := c == '"' || c == '\''

/-- The literal at the front of a text and what follows its closing quote. -/
def literal? : List Char → Option (List Char × List Char)
  | [] => none
  | c :: text =>
    if isQuote c then
      match text.dropWhile (!isQuote ·) with
      | [] => none  -- never closed
      | _ :: rest => some (text.takeWhile (!isQuote ·), rest)
    else none

/-- The first literal in the arguments of an annotation, read from behind the opening parenthesis
on. A parenthesis that closes the arguments before any quote leaves none. -/
def argumentLiteral? (arguments : List Char) : Option (List Char) :=
  (literal? (arguments.dropWhile fun c => !(c == ')' || isQuote c))).map (·.1)

theorem literal?_eq_some_iff {text lit rest : List Char} :
    literal? text = some (lit, rest) ↔
      ∃ q q', isQuote q = true ∧ isQuote q' = true ∧ (∀ c ∈ lit, isQuote c = false) ∧
        text = q :: lit ++ q' :: rest := by
  cases text with
  | nil => simp [literal?]
  | cons c text =>
    constructor
    · intro h
      rw [literal?] at h
      split at h
      · next hc =>
        split at h
        · simp at h
        · next q rest' hd =>
          obtain ⟨rfl, rfl⟩ := Prod.mk.injEq .. ▸ Option.some.injEq .. ▸ h
          refine ⟨c, q, hc, ?_, ?_, ?_⟩
          · have := List.head?_dropWhile_not (p := fun c => !isQuote c) (l := text)
            simpa [hd] using this
          · intro x hx
            simpa using List.all_eq_true.1 List.all_takeWhile x hx
          · rw [List.cons_append, ← hd, List.takeWhile_append_dropWhile]
      · simp at h
    · rintro ⟨q, q', hq, hq', hlit, h⟩
      obtain ⟨rfl, rfl⟩ : c = q ∧ text = lit ++ q' :: rest := by simpa using h
      have hd : (lit ++ q' :: rest).dropWhile (!isQuote ·) = q' :: rest := by
        rw [List.dropWhile_append_of_pos (by simpa using hlit)]
        simp [hq']
      have ht : (lit ++ q' :: rest).takeWhile (!isQuote ·) = lit := by
        rw [List.takeWhile_append_of_pos (by simpa using hlit)]
        simp [hq']
      simp [literal?, hq, hd, ht]

/-!
## Mapping annotations

An annotation such as `@GetMapping("/time")` maps a route to the handler below it. An annotation
counts if the first of the characters `)`, `"` and `'` among its arguments is a quote that opens a
literal; the literal is the route. `leftmost` takes the first annotation of a line that counts.
-/

/-! ### Kinds of mappings -/

inductive Mapping where
  | get
  | post
  | put
  | delete
  | patch
  /-- The general annotation, which names the HTTP method among its arguments. -/
  | request
  deriving DecidableEq, Repr

namespace Mapping

def all : List Mapping := [get, post, put, delete, patch, request]

def opening : Mapping → List Char
  | get => "@GetMapping(".toList
  | post => "@PostMapping(".toList
  | put => "@PutMapping(".toList
  | delete => "@DeleteMapping(".toList
  | patch => "@PatchMapping(".toList
  | request => "@RequestMapping(".toList

def literalOf? (m : Mapping) (text : List Char) : Option (List Char) :=
  (after? m.opening text).bind argumentLiteral?

/-- The mapping annotation at the front of a text, if its route is not empty. -/
def here? (text : List Char) : Option (Mapping × List Char) :=
  -- The names end in a parenthesis, so no two of them stand at the front of the same text.
  all.findSome? fun m =>
    ((m.literalOf? text).filter (!·.isEmpty)).map (m, ·)

/-- The first mapping annotation of a line, with its route. -/
def ofLine? (line : Line) : Option (Mapping × List Char) := leftmost here? line

end Mapping

/-- The base path of a controller: the literal of the first general annotation in the header, which
may be empty and may run over several lines. -/
def basePathOf (header : List Char) : List Char :=
  (leftmost Mapping.request.literalOf? header).getD []

/-!
### HTTP methods

The general annotation says `method = RequestMethod.POST`. What stands around the name is not looked
at: the first known name on the line of the mapping decides, be it in another annotation.
-/

/-- The HTTP method whose name stands at the front of a text and ends there. -/
def namedMethod? (text : List Char) : Option HttpMethod :=
  [HttpMethod.get, .post, .put, .delete, .patch].find? fun m =>
    match after? m.name.toList text with
    | some (c :: _) => !isWord c  -- `GETTER` is no method
    | some [] => true
    | none => false

def requestMethod? (line : Line) : Option HttpMethod :=
  leftmost (fun text => (after? "RequestMethod.".toList text).bind namedMethod?) line

/-- The HTTP method that a mapping annotation declares. The general annotation declares the one
that its line names, and `GET` if it names none. -/
def Mapping.method (line : Line) : Mapping → HttpMethod
  | .get => .get
  | .post => .post
  | .put => .put
  | .delete => .delete
  | .patch => .patch
  | .request => (requestMethod? line).getD .get

/-!
## Request parameters

A handler declares its parameters by annotations such as
`@RequestParam(value = "query", defaultValue = "hello")`. Only parameters that have a default value
are collected. Inside the annotation the name and then the default value are looked for from left
to right; outside of literals the search does not go past a closing parenthesis.
-/

/-- An equals sign and a literal that is not empty, with blanks around the sign: the literal and
what follows it. -/
def assigned? (text : List Char) : Option (List Char × List Char) :=
  match trimStart text with
  | '=' :: rest => (literal? (trimStart rest)).filter (!·.1.isEmpty)
  | _ => none

/-! ### Arguments -/

/-- The name of a parameter, given as `value` or as `name`. -/
def nameArgument? (text : List Char) : Option (List Char × List Char) :=
  (afterOneOf? ["value".toList, "name".toList] text).bind fun (_, rest) => assigned? rest

def defaultArgument? (text : List Char) : Option (List Char × List Char) :=
  (after? "defaultValue".toList text).bind assigned?

/-!
### The whole annotation

The name has to come before the default value. A name behind which there is no default value is
given up, and the search for a name goes on.
-/

/-- The answer of a matcher at the first position that can be reached without passing a closing
parenthesis. -/
def beforeClose (matcher : List Char → Option α) : List Char → Option α
  | [] => matcher []
  | c :: text =>
    -- What the matcher itself passes may hold a closing parenthesis.
    match matcher (c :: text) with
    | some a => some a
    | none => if c = ')' then none else beforeClose matcher text

/-- The default value that follows in the same annotation, and the text behind the annotation. -/
def defaultAhead? (text : List Char) : Option (List Char × List Char) :=
  beforeClose (fun here => (defaultArgument? here).bind fun (value, rest) =>
    (afterFirst? [')'] rest).map (value, ·)) text

/-- The parameter annotation at the front of a text, if it has a name and a default value, and the
text behind it. -/
def requestParam? (text : List Char) : Option (Parameter × List Char) :=
  (after? "@RequestParam(".toList text).bind fun arguments =>
    beforeClose (fun here => (nameArgument? here).bind fun (name, rest) =>
      -- If this fails for the name here, a later name can still do.
      (defaultAhead? rest).map fun (value, rest) =>
        ({ name := String.ofList name, defaultValue := String.ofList value }, rest)) arguments

def parametersIn (text : List Char) : List Parameter := allMatches requestParam? text

/-! ### Parameters of a handler -/

/-- How many characters below a mapping its parameters are looked for. -/
def parameterReach : Nat := 200

def parametersBelow (below : List Line) : List Parameter :=
  parametersIn ((unlines below).take parameterReach)

end ModuleReadme.Controller
