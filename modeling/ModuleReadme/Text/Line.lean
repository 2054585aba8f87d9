import ModuleReadme.Text.Ranges

/-!
# Lines and blanks

Texts are read line by line, and lines are trimmed of blanks before they are looked at.
-/

namespace ModuleReadme.Text

/-!
## Blanks

A blank is a character with the Unicode property `White_Space`. Lines are trimmed of blanks at
both ends before they are looked at, and blanks separate the words of a signature.
-/

/-- The code points with the property `White_Space`. -/
def blankRanges : Ranges :=
  [(0x9, 0xD), (0x20, 0x20), (0x85, 0x85), (0xA0, 0xA0), (0x1680, 0x1680), (0x2000, 0x200A),
   (0x2028, 0x2029), (0x202F, 0x202F), (0x205F, 0x205F), (0x3000, 0x3000)]

def isBlank (c : Char) : Bool := blankRanges.has c

/-! ### Trimming -/

/-- The text without its longest suffix of characters in `p`. -/
def dropEndWhile (p : Char → Bool) (cs : List Char) : List Char :=
  (cs.reverse.dropWhile p).reverse

def takeEndWhile (p : Char → Bool) (cs : List Char) : List Char :=
  (cs.reverse.takeWhile p).reverse

theorem dropEndWhile_append_takeEndWhile (p : Char → Bool) (cs : List Char) :
    dropEndWhile p cs ++ takeEndWhile p cs = cs := by
  rw [dropEndWhile, takeEndWhile, ← List.reverse_append, List.takeWhile_append_dropWhile,
    List.reverse_reverse]

def trimStart (cs : List Char) : List Char := cs.dropWhile isBlank

def trimEnd (cs : List Char) : List Char := dropEndWhile isBlank cs

def trim (cs : List Char) : List Char := trimEnd (trimStart cs)

/-!
## Lines

A text is cut into lines at line feeds and nowhere else, so that joining the lines again gives the
text back (`unlines_lines`). A carriage return stays at the end of its line.
-/

/-- One line of a text, without its line feed. -/
abbrev Line := List Char

/-- The lines of a text. There is always at least one, and the last may be empty. -/
def lines (text : List Char) : List Line := text.splitOn '\n'

/-- Lines with a line feed between each two. -/
def unlines (ls : List Line) : List Char := ['\n'].intercalate ls

/-- A text as it is shown with its lines after the first one indented. -/
def hanging (indent : Nat) (text : List Char) : List Char :=
  text.flatMap fun c => if c = '\n' then c :: List.replicate indent ' ' else [c]

/-! ### Cutting and joining -/

theorem unlines_lines (text : List Char) : unlines (lines text) = text :=
  List.intercalate_splitOn '\n'

theorem lines_unlines {ls : List Line} (h : ∀ l ∈ ls, '\n' ∉ l) (hne : ls ≠ []) :
    lines (unlines ls) = ls :=
  List.splitOn_intercalate '\n' h hne

theorem hanging_eq_self (indent : Nat) {text : List Char} (h : '\n' ∉ text) :
    hanging indent text = text := by
  induction text with
  | nil => rfl
  | cons c rest ih =>
    simp only [List.mem_cons, not_or] at h
    have hc : c ≠ '\n' := fun e => h.1 e.symm
    simpa [hanging, hc] using ih h.2

end ModuleReadme.Text
