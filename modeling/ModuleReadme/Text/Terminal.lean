import ModuleReadme.Text.Encoding

/-!
# Text without control sequences

Terminals do not show everything that is written to them: an escape character begins a sequence of
characters that controls the terminal, and control characters show nothing. `Terminal.shown` keeps
what is shown of a text: no escape character is left in it (`not_mem_shown_escape`), and a text
without control characters is kept as it is (`shown_eq_self`).
-/

namespace ModuleReadme.Text.Terminal

/-!
### Sequences

What an escape character begins is a sequence of two characters, a command with parameters or a text
that a terminator ends. The mode says what is being read.
-/

/-- The part of a command that is read next. -/
inductive Part where
  | start
  | parameters
  | intermediates
  /-- The parts come in an order in which they make no command. -/
  | disorder
  deriving DecidableEq, Repr

inductive Mode where
  | plain
  /-- The characters behind an escape character. -/
  | escape
  /-- What ends a sequence that began with an escape character and intermediate characters. -/
  | escapeEnd
  /-- A command, which can be meant for a device and then has a text of its own at the end. -/
  | command (device : Bool) (part : Part)
  /-- A text that a terminator ends, or an escape character. -/
  | hidden
  /-- The text for the title of the window, which a bell ends, or an escape character. -/
  | title
  deriving DecidableEq, Repr

/-- What an ASCII character is in a sequence. -/
inductive Kind where
  | control
  | intermediate
  | parameter
  /-- A character that marks a command as private. -/
  | mark
  | final
  deriving DecidableEq, Repr

def Kind.of (c : Char) : Kind :=
  if c.toNat < 0x20 then control
  else if c.toNat < 0x30 then intermediate
  else if c.toNat < 0x3C then parameter
  else if c.toNat < 0x40 then mark
  else if c.toNat < 0x7F then final
  else control

/-- The part of a command that follows a character, or nothing behind the last character. -/
def Part.next? (part : Part) (c : Char) : Option Part :=
  match part, Kind.of c with
  -- Control characters take effect within commands and are no part of them.
  | p, .control => some p
  | _, .final => none
  | .disorder, _ => some .disorder
  | _, .intermediate => some .intermediates
  | .intermediates, _ => some .disorder
  | .parameters, .mark => some .disorder
  | _, _ => some .parameters

/-- What is read behind an escape character and one more. -/
def Mode.ofIntroducer (c : Char) : Mode :=
  match c with
  | '[' => command false .start
  | 'P' => command true .start
  | ']' => title
  | 'X' | '^' | '_' => hidden
  | _ =>
    match Kind.of c with
    | .control => escape
    | .intermediate => escapeEnd
    | _ => plain

/-- The byte that ends a hidden text, wherever it stands in the encoding of a character. -/
def terminator : UInt8 := 0x9C

def Mode.next (m : Mode) (c : Char) : Mode :=
  -- Two control characters break off any sequence.
  if c = '\x18' ∨ c = '\x1A' then plain
  else if c = '\x1B' then escape
  else if 0x80 ≤ c.toNat then
    if m = hidden ∧ terminator ∈ encode (String.singleton c) then plain else m
  else
    match m with
    | plain => plain
    | escape => ofIntroducer c
    | escapeEnd =>
      match Kind.of c with
      | .control | .intermediate => escapeEnd
      | _ => plain
    | command device part =>
      match part.next? c with
      | none => if device then hidden else plain
      | some .disorder => if device then hidden else command device .disorder
      | some part => command device part
    | hidden => hidden
    | title => if c = '\x07' then plain else title

/-! ### What is shown -/

/-- A control character that moves on in the text. -/
def isLayout (c : Char) : Bool := c == '\t' || c == '\n' || c == '\x0C' || c == '\r'

/-- Whether a character is shown. Layout has its effect within sequences as well, if these have no
text of their own. -/
def Mode.shows (m : Mode) (c : Char) : Bool :=
  match m with
  | plain => isLayout c || (decide (0x20 ≤ c.toNat) && c != '\x7F')
  | escape | escapeEnd | command false _ => isLayout c
  | command true _ | hidden | title => false

/-- What is shown of a text. Once something has been shown, text is plain up to the next character
that is not shown as such, and only then a sequence goes on: `showing` says whether that is so. -/
def shownFrom (m : Mode) (showing : Bool) : List Char → List Char
  | [] => []
  | c :: text =>
    if showing && Mode.plain.shows c then
      c :: shownFrom (if 0x80 ≤ c.toNat then .plain else m) true text
    else if m.shows c then c :: shownFrom (m.next c) true text
    else shownFrom (m.next c) false text

def shown (text : List Char) : List Char := shownFrom .plain false text

/-! ### Control characters -/

theorem Mode.plain_shows_of_shows {m : Mode} {c : Char} (h : m.shows c = true) :
    plain.shows c = true := by
  cases m with
  | command device part => cases device <;> simp_all [shows]
  | _ => simp_all [shows]

theorem mem_shownFrom {m : Mode} {showing : Bool} {text : List Char} {c : Char}
    (h : c ∈ shownFrom m showing text) : c ∈ text ∧ Mode.plain.shows c = true := by
  fun_induction shownFrom m showing text with
  | case1 => simp at h
  | case2 m showing d text hd ih =>
    rcases List.mem_cons.1 h with rfl | h
    · exact ⟨List.mem_cons_self .., by simpa using (Bool.and_eq_true_iff.1 hd).2⟩
    · exact (ih h).imp (List.mem_cons_of_mem _) id
  | case3 m showing d text _ hd ih =>
    rcases List.mem_cons.1 h with rfl | h
    · exact ⟨List.mem_cons_self .., Mode.plain_shows_of_shows hd⟩
    · exact (ih h).imp (List.mem_cons_of_mem _) id
  | case4 m showing d text _ _ ih => exact (ih h).imp (List.mem_cons_of_mem _) id

theorem not_mem_shown_escape (text : List Char) : '\x1B' ∉ shown text := fun h =>
  absurd (mem_shownFrom h).2 (by decide)

/-- Text without control characters is shown as it is. -/
theorem shown_eq_self {text : List Char} (h : ∀ c ∈ text, Mode.plain.shows c = true) :
    shown text = text := by
  suffices ∀ showing, shownFrom .plain showing text = text from this false
  induction text with
  | nil => exact fun _ => rfl
  | cons c text ih =>
    intro showing
    have hc := h c (List.mem_cons_self ..)
    have ih := ih fun d hd => h d (List.mem_cons_of_mem _ hd)
    cases showing with
    | true => simp [shownFrom, hc, ih]
    | false =>
      -- Only an escape character leads out of plain text.
      have hn : Mode.plain.next c = .plain := by
        have h' : c ≠ '\x1B' := fun e => by subst e; exact absurd hc (by decide)
        simp [Mode.next, h']
      simp [shownFrom, hc, hn, ih]

end ModuleReadme.Text.Terminal
