import ModuleReadme.Text.Line
import ModuleReadme.Text.Search
import ModuleReadme.Text.Word

/-!
# Declarations

Two kinds of declarations matter in a source text: that of a class, which ends the header of a
controller, and that of a method, which handles requests. Both are told line by line, without regard
to what stands around the line.
-/

namespace ModuleReadme.Controller

/-!
## Keywords

A declaration begins with keywords such as `public` and `static`. Each of them is followed by
blanks, which separate it from what comes next.
-/

open Text

/-- The text without the blanks in front, of which there has to be one at least. -/
def skipBlanks? : List Char → Option (List Char)
  | [] => none
  | c :: text => if isBlank c then some (trimStart text) else none

/-- What follows one of `words` and the blanks behind it. -/
def afterKeyword? (words : List (List Char)) (text : List Char) : Option (List Char) :=
  (afterOneOf? words text).bind fun (_, rest) => skipBlanks? rest

/-!
## Class declarations

A line declares a class if annotations, then modifiers, then the keyword `class` and a name stand
at its beginning, with blanks between them. Everything through the first such line is the header of
a controller, everything after it the body.
-/

/-! ### What may stand in front -/

def classModifiers : List (List Char) :=
  ["public".toList, "protected".toList, "private".toList, "abstract".toList, "final".toList,
   "static".toList]

/-- What follows the arguments of an annotation, up to the first closing parenthesis, or the text
itself if no arguments stand there. -/
def dropArguments? : List Char → Option (List Char)
  | [] => some []
  | c :: text =>
    if c = '(' then
      match text.dropWhile (· != ')') with
      | [] => none  -- the arguments go on in the next line
      | _ :: rest => some rest
    else some (c :: text)

/-- What follows an annotation and the blanks behind it. Its name may hold dots. -/
def afterAnnotation? : List Char → Option (List Char)
  | [] => none
  | c :: text =>
    if c = '@' && !(text.takeWhile fun d => isWord d || d == '.').isEmpty then
      (dropArguments? (text.dropWhile fun d => isWord d || d == '.')).bind skipBlanks?
    else none

/-! ### The declaration -/

def startsClass (text : List Char) : Bool :=
  match afterKeyword? ["class".toList] text with
  -- One character of the name is enough.
  | some (c :: _) => isWord c
  | _ => false

def isClassDeclaration (line : List Char) : Bool :=
  startsClass (dropMany (afterKeyword? classModifiers) (dropMany afterAnnotation? (trimStart line)))

/-!
## Handler signatures

The handler of a mapping is the method whose signature comes next. A signature is an access
keyword, further modifiers, a type, a name and an opening parenthesis. It is read from the
parenthesis backwards: the first parenthesis of the line ends the name, and what is left of the
name has to be access keyword, modifiers and type.
-/

/-! ### Modifiers and types -/

/-- The words of which a signature begins with one. -/
def accessKeywords : List (List Char) := ["public".toList, "private".toList, "protected".toList]

def methodModifiers : List (List Char) :=
  ["static".toList, "final".toList, "synchronized".toList, "abstract".toList]

/-- The characters of a type: word characters, dots, angle and square brackets and `?`. -/
def isTypeChar (c : Char) : Bool := isWord c || ['.', '<', '>', '[', ']', '?'].contains c

/-- A type: segments of type characters with commas between them and blanks around the commas, as
in `Map<String, List<Long>>`. -/
def isType (text : List Char) : Bool :=
  (text.splitOn ',').all fun segment => !(trim segment).isEmpty && (trim segment).all isTypeChar

/-- What follows a modifier. A word in front of a comma is no modifier but part of the type. -/
def afterModifier? (text : List Char) : Option (List Char) :=
  (afterKeyword? methodModifiers text).filter fun rest => rest.head? != some ','

/-!
### Signatures

A word such as `static` can be a modifier or, where a type is left out, the type itself. The
modifiers are dropped as far as they go, and what remains has to be a type.
-/

def isHandlerPrefix (text : List Char) : Bool :=
  match afterKeyword? accessKeywords text with
  | some rest => isType (dropMany afterModifier? rest)
  | none => false

def signatureName? (line : Line) : Option (List Char) :=
  if line.contains '(' then
    let declared := trimEnd (line.takeWhile (· != '('))
    let name := takeEndWhile isWord declared
    let before := dropEndWhile isWord declared
    -- A name that stands at the end of the type, with nothing in between, is part of it.
    if name.isEmpty || trimEnd before = before || !isHandlerPrefix (trimEnd before) then none
    else some name
  else none

/-! ### Handlers -/

/-- How many lines below a mapping its handler is looked for. -/
def handlerReach : Nat := 10

/-- The name of the handler whose signature comes first in the lines below a mapping. -/
def handlerBelow? (below : List Line) : Option (List Char) :=
  (below.take handlerReach).findSome? fun line => signatureName? (trim line)

end ModuleReadme.Controller
