import ModuleReadme.Text.Category
import ModuleReadme.Text.Mark

/-!
# Quoted text

Text inside log records is written between double quotes, with escapes for the quote, the backslash
and all characters that cannot be seen on their own.
-/

namespace ModuleReadme.Text

/-!
## Printable characters

A character is printable if it can be seen, and combining if it is only seen together with the
character in front of it, all by version 17 of Unicode.
-/

/-- The code points with the property `Grapheme_Extend` that are younger than version 16 of
Unicode. -/
def recentExtendRanges : Ranges :=
  [(0x1ACF, 0x1ADD), (0x1AE0, 0x1AEB), (0x10EFA, 0x10EFB), (0x11B60, 0x11B60), (0x11B62, 0x11B64),
   (0x11B66, 0x11B66), (0x1E6E3, 0x1E6E3), (0x1E6E6, 0x1E6E6), (0x1E6EE, 0x1E6EF),
   (0x1E6F5, 0x1E6F5)]

/-- The voiced sound marks of half the width, which take a place of their own. -/
def soundMarkRanges : Ranges := [(0xFF9E, 0xFF9F)]

/-- Letters that fill a place and show nothing. -/
def fillerRanges : Ranges := [(0x115F, 0x1160), (0x3164, 0x3164), (0xFFA0, 0xFFA0)]

/-- A mark that is set above, below or around another character, or another character with the
property `Grapheme_Extend` that takes no place of its own. -/
def isCombining (c : Char) : Bool :=
  if c.toNat < 0x80 || soundMarkRanges.has c then false
  else nonspacingMarkRanges.has c || enclosingMarkRanges.has c || otherExtendRanges.has c
    || recentExtendRanges.has c

/-- A character that can be seen, or the plain space. -/
def isPrintable (c : Char) : Bool :=
  if c.toNat < 0x80 then decide (0x20 ≤ c.toNat) && c.toNat != 0x7F
  else !fillerRanges.has c && (recentRanges.has c || graphicCategories.any (·.ranges.has c))

/-!
## Escapes

A few characters have an escape of two characters, all others one with their code point in it.
-/

def escapeQuoted (c : Char) : List Char :=
  if c = '"' || c = '\\' then ['\\', c]
  else if c = '\n' then ['\\', 'n']
  else if c = '\r' then ['\\', 'r']
  else if c = '\t' then ['\\', 't']
  else if c = '\x00' then ['\\', '0']
  else if isCombining c || !isPrintable c then
    "\\u\x7b".toList ++ Nat.toDigits 16 c.toNat ++ ['\x7d']
  else [c]

/-- A character in the quoted text of a path, in which the apostrophe has an escape too. -/
def escapeQuotedPath (c : Char) : List Char := if c = '\x27' then ['\\', c] else escapeQuoted c

def quoted (text : String) : String :=
  String.ofList ('"' :: text.toList.flatMap escapeQuoted ++ ['"'])

def quotedPath (text : String) : String :=
  String.ofList ('"' :: text.toList.flatMap escapeQuotedPath ++ ['"'])

/-- What stands in place of a quoted text that may be missing. -/
def quotedOption : Option String → String
  | none => "None"
  | some quotedText => "Some(" ++ quotedText ++ ")"

end ModuleReadme.Text
