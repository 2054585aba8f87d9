import ModuleReadme.Pattern.Basic
import ModuleReadme.Text.Age
import ModuleReadme.Text.Break
import ModuleReadme.Text.Folding
import ModuleReadme.Text.Line
import ModuleReadme.Text.Ranges
import ModuleReadme.Text.Script
import ModuleReadme.Text.Search

/-!
# Escapes and classes by name

A backslash gives the characters after it another meaning, and a class of characters can be asked
for by its name. What either of them stands for hangs on the settings that a pattern is read with.
-/

namespace ModuleReadme.Pattern

/-!
## Classes of ASCII characters

Some sets of ASCII characters have names, under which they can be used in brackets.
-/

open Text

def asciiClasses : List NamedRanges :=
  [⟨["alnum"], [(0x30, 0x39), (0x41, 0x5A), (0x61, 0x7A)]⟩,
   ⟨["alpha"], [(0x41, 0x5A), (0x61, 0x7A)]⟩,
   ⟨["ascii"], [(0, 0x7F)]⟩,
   ⟨["blank"], [(0x9, 0x9), (0x20, 0x20)]⟩,
   ⟨["cntrl"], [(0, 0x1F), (0x7F, 0x7F)]⟩,
   ⟨["digit"], [(0x30, 0x39)]⟩,
   ⟨["graph"], [(0x21, 0x7E)]⟩,
   ⟨["lower"], [(0x61, 0x7A)]⟩,
   ⟨["print"], [(0x20, 0x7E)]⟩,
   ⟨["punct"], [(0x21, 0x2F), (0x3A, 0x40), (0x5B, 0x60), (0x7B, 0x7E)]⟩,
   ⟨["space"], [(0x9, 0xD), (0x20, 0x20)]⟩,
   ⟨["upper"], [(0x41, 0x5A)]⟩,
   ⟨["word"], [(0x30, 0x39), (0x41, 0x5A), (0x5F, 0x5F), (0x61, 0x7A)]⟩,
   ⟨["xdigit"], [(0x30, 0x39), (0x41, 0x46), (0x61, 0x66)]⟩]

def asciiClass? (name : String) : Option Ranges := named? asciiClasses name

/-!
## Settings

The meaning of a written pattern depends on settings, which can be changed inside the pattern by
letters such as `i` in `(?i)`. A change is in force up to the end of the group that it stands in.
-/

structure Setting where
  /-- Upper and lower case are the same. -/
  ignoreCase : Bool := false
  /-- `^` and `$` stand for the ends of lines, and not for those of the text. -/
  multiLine : Bool := false
  /-- A dot stands for line feeds as well. -/
  dotAll : Bool := false
  /-- Classes have characters beyond ASCII. -/
  unicode : Bool := true
  /-- Blanks and comments in the pattern have no meaning. -/
  ignoreBlanks : Bool := false
  /-- A carriage return ends lines as well. -/
  returns : Bool := false
  /-- Repetitions are to be rare unless a question mark asks for the contrary. -/
  rarely : Bool := false
  deriving DecidableEq, Repr

namespace Setting

def switch? (s : Setting) (letter : Char) (on : Bool) : Option Setting :=
  match letter with
  | 'i' => some { s with ignoreCase := on }
  | 'm' => some { s with multiLine := on }
  | 's' => some { s with dotAll := on }
  | 'u' => some { s with unicode := on }
  | 'x' => some { s with ignoreBlanks := on }
  | 'R' => some { s with returns := on }
  | 'U' => some { s with rarely := on }
  | _ => none

/-- Reads the letters that change settings up to a colon or a closing parenthesis, which is left in
front of the rest. A minus sign switches off what follows; `seen` are the letters in front, the last
one first, and none may come twice. -/
def readLetters (s : Setting) (seen : List Char) : List Char → Option (Setting × List Char)
  | [] => none
  | c :: rest =>
    if c = ':' || c = ')' then
      if seen.head? = some '-' then none else some (s, c :: rest)
    else if seen.contains c then none
    else if c = '-' then readLetters s (c :: seen) rest
    else (s.switch? c (!seen.contains '-')).bind fun s => readLetters s (c :: seen) rest

/-- What follows the blanks and comments in front of a text. A comment goes from a number sign
through the end of its line. -/
def afterIgnored (inComment : Bool) : List Char → List Char
  | [] => []
  | c :: rest =>
    if inComment then afterIgnored (c ≠ '\n') rest
    else if isBlank c then afterIgnored false rest
    else if c = '#' then afterIgnored true rest
    else c :: rest

theorem length_afterIgnored_le (inComment : Bool) (text : List Char) :
    (afterIgnored inComment text).length ≤ text.length := by
  fun_induction afterIgnored inComment text <;> simp_all <;> omega

/-- The pattern without the blanks and comments in front, if they have no meaning. -/
def skip (s : Setting) (text : List Char) : List Char :=
  if s.ignoreBlanks then afterIgnored false text else text

theorem length_skip_le (s : Setting) (text : List Char) : (s.skip text).length ≤ text.length := by
  unfold skip
  split
  · exact length_afterIgnored_le ..
  · exact Nat.le_refl _

/-!
### What characters stand for

Dots, the signs for the ends of lines and all characters that stand for themselves mean what the
settings say.
-/

/-- A set as it is meant if case is ignored. -/
def fold (s : Setting) (set : Ranges) : Ranges :=
  if s.ignoreCase then if s.unicode then set.foldCase else set.foldAsciiCase else set

def literal (s : Setting) (c : Char) : Pattern := ofSet (s.fold (.single c))

/-- What a dot stands for. Without characters beyond ASCII it stands for nothing that is text. -/
def dot? (s : Setting) : Option Pattern :=
  if !s.unicode then none
  else if s.dotAll then some (oneOf .all)
  else if s.returns then some (oneOf (Ranges.complement [(0xA, 0xA), (0xD, 0xD)]))
  else some (oneOf (Ranges.complement [(0xA, 0xA)]))

def start (s : Setting) : Condition :=
  if s.multiLine then if s.returns then .lineStartAfterReturn else .lineStart else .textStart

def finish (s : Setting) : Condition :=
  if s.multiLine then if s.returns then .lineEndBeforeReturn else .lineEnd else .textEnd

end Setting

/-!
## Sets of Unicode properties

A property names a set: one that characters have or do not have, such as `Lowercase`, a general
category or a group of these, or a script. Other properties have values, and a set for each of them.
Names come in any case and with any separators.
-/

/-! ### Names -/

/-- A name without the separators and the word `is` in front, in lower case. Of `isc` the whole is
kept, for it is a name of its own. -/
def propertyName (name : List Char) : String :=
  let letters (cs : List Char) :=
    (cs.filter fun c => decide (c.toNat < 0x80) && !" _-".toList.contains c).map Char.toLower
  match name with
  | a :: b :: rest =>
    if a.toLower = 'i' ∧ b.toLower = 's' then
      if letters rest = ['c'] then "isc" else String.ofList (letters rest)
    else String.ofList (letters name)
  | _ => String.ofList (letters name)

inductive PropertyQuery where
  /-- A property that characters have or do not have, a general category or a script. -/
  | named (name : String)
  /-- A property with a value, or with any other value. -/
  | valued (name value : String) (negated : Bool)
  deriving DecidableEq, Repr

/-- What is asked for, if there is one of these separators between name and value. -/
def PropertyQuery.ofSeparated? (name : List Char) : List (List Char) → Option PropertyQuery
  | [] => none
  | separator :: rest =>
    match afterFirst? separator name with
    | some value =>
      some (.valued (propertyName (name.take (name.length - value.length - separator.length)))
        (propertyName value) (separator.contains '!'))
    | none => ofSeparated? name rest

def PropertyQuery.ofName (name : List Char) : PropertyQuery :=
  (ofSeparated? name ["!=".toList, [':'], ['=']]).getD (.named (propertyName name))

/-!
### Sets

A name by itself is looked for among the properties, then among the categories, then among the
scripts. For a property with a value each property has a table of its own.
-/

/-- The names of properties with values, whose short names could be taken for those of sets. -/
def valuedProperties : List (List String × (String → Option Ranges)) :=
  [(["gc", "generalcategory"], category?),
   (["sc", "script"], named? scripts),
   (["scx", "scriptextensions"], usedWith?),
   (["age"], charactersSince?),
   (["gcb", "graphemeclusterbreak"], named? graphemeBreaks),
   (["wb", "wordbreak"], named? wordBreaks),
   (["sb", "sentencebreak"], named? sentenceBreaks)]

/-- The set of what is asked for. A negation is left out. -/
def PropertyQuery.set? : PropertyQuery → Option Ranges
  | named name => (named? properties name).or ((category? name).or (named? scripts name))
  | valued name value _ => (valuedProperties.find? (·.1.contains name)).bind (·.2 value)

/-- Whether all other characters are asked for. -/
def PropertyQuery.isNegated : PropertyQuery → Bool
  | named _ => false
  | valued _ _ negated => negated

/-!
## Escapes

A backslash gives the characters after it another meaning: it takes away a special meaning, spells
out a character by its code point, or stands for a class or a condition.
-/

inductive Escape where
  /-- A character. It may be given as a byte, by two digits. -/
  | character (c : Char) (byte : Bool)
  | set (chars : Ranges)
  | condition (c : Condition)

namespace Escape

/-! ### Code points -/

def hexValue? (c : Char) : Option Nat :=
  if c.isDigit then some (c.toNat - '0'.toNat)
  else if 'a' ≤ c.toLower ∧ c.toLower ≤ 'f' then some (c.toLower.toNat - 'a'.toNat + 10)
  else none

def character? (byte : Bool) (n : Nat) : Option Escape :=
  if n.isValidChar then some (.character (Char.ofNat n) byte) else none

/-- Reads a number of a fixed count of hexadecimal digits. -/
def hexDigits (s : Setting) (value : Nat) : Nat → List Char → Option (Nat × List Char)
  | 0, text => some (value, text)
  | _ + 1, [] => none
  | count + 1, c :: rest =>
    (hexValue? c).bind fun d => hexDigits s (value * 16 + d) count (s.skip rest)

/-- The number that hexadecimal digits spell out. There has to be one at least. -/
def hexNumber? : List Char → Option Nat
  | [] => none
  | digits => digits.foldl (fun value c => do return (← value) * 16 + (← hexValue? c)) (some 0)

/-- What stands in braces, and what follows the closing one. The opening one has been read. -/
def braced? (s : Setting) (text : List Char) : Option (List Char × List Char) :=
  match text with
  | [] => none
  | c :: rest =>
    if c = '\x7D' then some ([], rest)
    else
      have : (s.skip rest).length < rest.length + 1 := Nat.lt_succ_of_le (s.length_skip_le rest)
      (braced? s (s.skip rest)).map fun r => (c :: r.1, r.2)
termination_by text.length

/-- Reads the code point of a character, of `count` digits or in braces. -/
def codePoint? (s : Setting) (count : Nat) (text : List Char) : Option (Escape × List Char) :=
  match s.skip text with
  | '\x7B' :: rest => do
    let (digits, rest) ← braced? s (s.skip rest)
    return (← character? false (← hexNumber? digits), s.skip rest)
  | text => do
    let (n, rest) ← hexDigits s 0 count text
    return (← character? (count == 2) n, rest)

/-! ### Classes -/

/-- The set of one of the letters `d`, `s` and `w`. Without characters beyond ASCII there is no set
of all the others. -/
def letterClass? (s : Setting) (negated : Bool) (unicode : Ranges) (ascii : String) :
    Option Escape :=
  if s.unicode then some (.set (.signed negated unicode))
  else if negated then none  -- bytes that are no text would be among them
  else (asciiClass? ascii).map .set

/-- Reads the name of a Unicode property, of one letter or in braces, as the set of the characters
that have the property or do not have it. -/
def property? (s : Setting) (negated : Bool) (text : List Char) : Option (Escape × List Char) :=
  if !s.unicode then none
  else do
    let (name, rest) ← match s.skip text with
      | [] => none
      | '\x7B' :: rest => braced? s (s.skip rest)
      | '\\' :: _ => none
      | c :: rest => some ([c], rest)
    let query := PropertyQuery.ofName name
    let set ← query.set?
    return (.set (.signed (negated ^^ query.isNegated) (s.fold set)), rest)

/-! ### Conditions -/

def boundaries : List (String × WordPlace) :=
  [("start", .start), ("end", .finish), ("start-half", .startHalf), ("end-half", .finishHalf)]

def isBoundaryChar (c : Char) : Bool := c.isAlpha || c == '-'

/-- Reads what follows `b`: a name in braces makes a special boundary. Braces that begin otherwise
are left to be read as a repetition. -/
def boundary? (s : Setting) (text : List Char) : Option (WordPlace × List Char) :=
  match text with
  | '\x7B' :: rest =>
    match s.skip rest with
    | [] => none
    | c :: rest =>
      if isBoundaryChar c then do
        let (name, rest) ← braced? s (c :: rest)
        return (← boundaries.lookup (String.ofList name), rest)
      else some (.boundary, text)
  | _ => some (.boundary, text)

def place (s : Setting) (p : WordPlace) : Escape := .condition (.word p s.unicode)

/-! ### All escapes -/

/-- ASCII characters that stand for themselves behind a backslash: all but letters, digits and angle
brackets. -/
def isPlain (c : Char) : Bool :=
  decide (c.toNat < 0x80) && !c.isAlphanum && c != '<' && c != '>'

def read? (s : Setting) : List Char → Option (Escape × List Char)
  | [] => none
  | c :: rest =>
    if isPlain c then some (.character c false, rest)
    else
      match c with
      | 'x' => codePoint? s 2 rest
      | 'u' => codePoint? s 4 rest
      | 'U' => codePoint? s 8 rest
      | 'p' => property? s false rest
      | 'P' => property? s true rest
      | 'd' => (letterClass? s false decimalNumberRanges "digit").map (·, rest)
      | 'D' => (letterClass? s true decimalNumberRanges "digit").map (·, rest)
      | 's' => (letterClass? s false blankRanges "space").map (·, rest)
      | 'S' => (letterClass? s true blankRanges "space").map (·, rest)
      | 'w' => (letterClass? s false wordRanges "word").map (·, rest)
      | 'W' => (letterClass? s true wordRanges "word").map (·, rest)
      | 'a' => some (.character '\x07' false, rest)
      | 'f' => some (.character '\x0C' false, rest)
      | 't' => some (.character '\t' false, rest)
      | 'n' => some (.character '\n' false, rest)
      | 'r' => some (.character '\r' false, rest)
      | 'v' => some (.character '\x0B' false, rest)
      | 'A' => some (.condition .textStart, rest)
      | 'z' => some (.condition .textEnd, rest)
      | 'b' => (boundary? s rest).map fun r => (place s r.1, r.2)
      | 'B' => some (place s .notBoundary, rest)
      | '<' => some (place s .start, rest)
      | '>' => some (place s .finish, rest)
      | _ => none

/-!
### Escapes in classes

In brackets an escape is a character or a set. Conditions have no place there.
-/

def char? (s : Setting) : Escape → Option Char
  | .character c _ => if s.unicode || decide (c.toNat < 0x80) then some c else none
  | _ => none

def set? (s : Setting) : Escape → Option Ranges
  | .set chars => some chars
  | e => (e.char? s).map .single

end Escape

end ModuleReadme.Pattern
