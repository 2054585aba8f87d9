/-!
# Looking for things in a text

The searches of this library all work on the rest of a text: a matcher is given the text from some
position on and answers with what it found there, and with the text after the match where the
search has to go on from. `after?` is the matcher for a fixed word, `leftmost` moves a matcher
along a text, and `allMatches` collects matches that do not overlap.
-/

namespace ModuleReadme.Text

/-!
### Words

Of several words at the same place the first in the list is found. If none of them begins with
another one, it is the only one that stands there, and the order of the list has no bearing on the
answer.
-/

/-- What follows `word` in a text that begins with it. -/
def after? : (word text : List Char) → Option (List Char)
  | [], text => some text
  | _ :: _, [] => none
  | w :: word, c :: text => if w = c then after? word text else none

theorem after?_eq_some_iff {word text rest : List Char} :
    after? word text = some rest ↔ text = word ++ rest := by
  induction word generalizing text with
  | nil => simp [after?, eq_comm]
  | cons w word ih =>
    cases text with
    | nil => simp [after?]
    | cons c text =>
      by_cases h : w = c
      · simp [after?, h, ih]
      · simp [after?, h, Ne.symm h]

@[simp] theorem after?_append (word rest : List Char) : after? word (word ++ rest) = some rest :=
  after?_eq_some_iff.2 rfl

/-- What follows the first of `words` that the text begins with, together with that word. -/
def afterOneOf? (words : List (List Char)) (text : List Char) : Option (List Char × List Char) :=
  words.findSome? fun w => (after? w text).map (w, ·)

/-- If all answers are the same, the first one is any one of them. -/
theorem findSome?_eq_some_iff_of_unique {l : List α} {f : α → Option β}
    (h : ∀ x ∈ l, ∀ y ∈ l, ∀ b c, f x = some b → f y = some c → b = c) {b : β} :
    l.findSome? f = some b ↔ ∃ x ∈ l, f x = some b := by
  constructor
  · exact List.exists_of_findSome?_eq_some
  · rintro ⟨x, hx, hb⟩
    have hsome : (l.findSome? f).isSome := List.findSome?_isSome_iff.mpr ⟨x, hx, by rw [hb]; rfl⟩
    obtain ⟨c, hc⟩ := Option.isSome_iff_exists.mp hsome
    obtain ⟨y, hy, hfound⟩ := List.exists_of_findSome?_eq_some hc
    rw [hc, h x hx y hy b c hb hfound]

theorem afterOneOf?_eq_some_iff {words : List (List Char)}
    (hwords : ∀ v ∈ words, ∀ w ∈ words, v <+: w → v = w) {word text rest : List Char} :
    afterOneOf? words text = some (word, rest) ↔ word ∈ words ∧ text = word ++ rest := by
  have hafter : ∀ w v rest, (after? w text).map (w, ·) = some (v, rest) ↔
      w = v ∧ text = w ++ rest := by
    intro w v rest
    simp only [Option.map_eq_some_iff, Prod.mk.injEq, after?_eq_some_iff]
    constructor
    · rintro ⟨_, htext, rfl, rfl⟩
      exact ⟨rfl, htext⟩
    · rintro ⟨rfl, htext⟩
      exact ⟨rest, htext, rfl, rfl⟩
  rw [afterOneOf?, findSome?_eq_some_iff_of_unique]
  · simp only [hafter]
    constructor
    · rintro ⟨_, hmem, rfl, htext⟩
      exact ⟨hmem, htext⟩
    · rintro ⟨hmem, htext⟩
      exact ⟨word, hmem, rfl, htext⟩
  · rintro v hv w hw ⟨_, restv⟩ ⟨_, restw⟩ hfoundv hfoundw
    obtain ⟨rfl, hv'⟩ := (hafter ..).mp hfoundv
    obtain ⟨rfl, hw'⟩ := (hafter ..).mp hfoundw
    -- Of two words in front of the same text one begins with the other.
    have heq : v = w := by
      rcases List.prefix_or_prefix_of_prefix ⟨restv, hv'.symm⟩ ⟨restw, hw'.symm⟩ with hle | hle
      · exact hwords v hv w hw hle
      · exact (hwords w hw v hv hle).symm
    subst heq
    rw [List.append_cancel_left (hv'.symm.trans hw')]

/-! ### The first match -/

/-- The answer of a matcher at the first position at which it has one. The end of the text counts
as a position. -/
def leftmost (matcher : List Char → Option α) : List Char → Option α
  | [] => matcher []
  | c :: text =>
    match matcher (c :: text) with
    | some a => some a
    | none => leftmost matcher text

def contains (text word : List Char) : Bool := (leftmost (after? word) text).isSome

def afterFirst? (word text : List Char) : Option (List Char) := leftmost (after? word) text

/-! ### Repetition -/

/-- All matches of a text from left to right. After a match the search goes on behind it; a match
that takes nothing is passed over. -/
def allMatches (matcher : List Char → Option (α × List Char)) (text : List Char) : List α :=
  match text with
  | [] => []
  | c :: tail =>
    match matcher (c :: tail) with
    | some (a, rest) =>
      -- Holds of every matcher that passes a character.
      if rest.length ≤ tail.length then a :: allMatches matcher rest
      else allMatches matcher tail
    | none => allMatches matcher tail
termination_by text.length

/-- Takes a step as often as it succeeds. A step that takes nothing ends the repetition. -/
def dropMany (step : List Char → Option (List Char)) (text : List Char) : List Char :=
  match step text with
  | some rest => if rest.length < text.length then dropMany step rest else text
  | none => text
termination_by text.length

end ModuleReadme.Text
