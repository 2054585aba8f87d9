import ModuleReadme.Text.Casing
import Mathlib.Data.List.Basic

/-!
# Titles run by run

A title is made from left to right, and all that a character has to know of what stands in front of
it is whether that ends in a letter (`titleFrom_append`). So a text may be cut at every character
that is no letter, and its title is made piece by piece. The title of an ASCII text keeps none of
the capitals of the text: it is determined by the text up to the case of the letters, and has its
capitals where runs of letters begin (`titleCase_runByRun`).
-/

namespace ModuleReadme.Text

/-!
## What stays on one line in title case

The case mappings never make a line feed out of another character, so a title is on one line if the
name that it is made from is (`not_mem_titleCase`).
-/

theorem eq_ten_of_ofNat_eq_lineFeed {n : Nat} (h : Char.ofNat n = '\n') : n = 10 := by
  by_cases hv : n.isValidChar
  · rw [Char.ofNat, dif_pos hv] at h
    exact congrArg Char.toNat h
  · -- Every other number stands for the character zero.
    rw [Char.ofNat, dif_neg hv] at h
    exact absurd h (by decide)

/-!
### The tabulated mappings

No run of a table has the line feed among its images, and no expansion holds it. Both are read off
the tables, entry by entry.
-/

/-- Tabulated mappings without the line feed among their images leave it to itself. -/
theorem eq_lineFeed_of_mem_mapCase {runs : List CaseRun} {expansions : List (Nat × List Nat)}
    (hruns : ∀ run ∈ runs, 10 < run.image) (hexp : ∀ e ∈ expansions, 10 ∉ e.2) {c : Char}
    (h : '\n' ∈ mapCase runs expansions c) : c = '\n' := by
  unfold mapCase at h
  split at h
  · next n hn =>
    obtain ⟨run, hrun, himage⟩ := List.exists_of_findSome?_eq_some hn
    -- A run of the table never maps to the line feed.
    have hten : n = 10 := eq_ten_of_ofNat_eq_lineFeed (List.mem_singleton.mp h).symm
    have hlow := hruns run hrun
    unfold CaseRun.image? at himage
    split at himage
    · cases himage
      omega
    · cases himage
  · split at h
    · next ns hns =>
      -- Nor does any of the expansions hold it.
      obtain ⟨n, hn, hchar⟩ := List.mem_map.mp h
      obtain ⟨before, after, hsplit, -⟩ := List.lookup_eq_some_iff.mp hns
      have hmem : (c.toNat, ns) ∈ expansions := by simp [hsplit]
      rw [eq_ten_of_ofNat_eq_lineFeed hchar] at hn
      exact absurd hn (hexp _ hmem)
    · exact (List.mem_singleton.mp h).symm

theorem eq_lineFeed_of_mem_upper {c : Char} (h : '\n' ∈ upper c) : c = '\n' := by
  unfold upper at h
  split at h
  · have hc : c.toUpper = '\n' := (List.mem_singleton.mp h).symm
    unfold Char.toUpper at hc
    split at hc
    · have hval := congrArg Char.val hc
      grind
    · exact hc
  · exact eq_lineFeed_of_mem_mapCase (by decide +kernel) (by decide +kernel) h

theorem eq_lineFeed_of_mem_lower {c : Char} (h : '\n' ∈ lower c) : c = '\n' := by
  unfold lower at h
  split at h
  · have hc : c.toLower = '\n' := (List.mem_singleton.mp h).symm
    unfold Char.toLower at hc
    split at hc
    · have hval := congrArg Char.val hc
      grind
    · exact hc
  · exact eq_lineFeed_of_mem_mapCase (by decide +kernel) (by decide +kernel) h

/-! ### Titles -/

theorem not_mem_titleFrom {text : List Char} (h : '\n' ∉ text) (afterLetter : Bool) :
    '\n' ∉ titleFrom afterLetter text := by
  induction text generalizing afterLetter with
  | nil => exact h
  | cons c rest ih =>
      obtain ⟨hc, hrest⟩ : '\n' ≠ c ∧ '\n' ∉ rest := by simpa using h
      rw [titleFrom, List.mem_append, not_or]
      refine ⟨?_, ih hrest _⟩
      split
      · simpa using hc
      · split
        · exact fun hmem => hc (eq_lineFeed_of_mem_lower hmem).symm
        · exact fun hmem => hc (eq_lineFeed_of_mem_upper hmem).symm

/-- A title is on one line if the name is. -/
theorem not_mem_titleCase {text : List Char} (h : '\n' ∉ text) : '\n' ∉ titleCase text :=
  not_mem_titleFrom h false

/-! ## Cutting a title -/

variable {s t : List Char} {c d : Char}

/-! ### What stands in front -/

/-- Whether a text ends in a letter. For the empty text this is so if a letter stands in front. -/
def endsInLetter (afterLetter : Bool) (text : List Char) : Bool :=
  (text.getLast?.map isLetter).getD afterLetter

@[simp] theorem endsInLetter_nil (b : Bool) : endsInLetter b [] = b := rfl

@[simp] theorem endsInLetter_cons (b : Bool) (c : Char) (text : List Char) :
    endsInLetter b (c :: text) = endsInLetter (isLetter c) text := by
  rw [endsInLetter, endsInLetter, List.getLast?_cons]
  cases text.getLast? <;> rfl

/-- The title of a text in two parts: for the second part it counts how the first one ends. -/
theorem titleFrom_append (b : Bool) (s t : List Char) :
    titleFrom b (s ++ t) = titleFrom b s ++ titleFrom (endsInLetter b s) t := by
  induction s generalizing b with
  | nil => rfl
  | cons c s ih =>
      rw [List.cons_append, titleFrom, titleFrom, ih, endsInLetter_cons, List.append_assoc]

theorem titleFrom_cons_of_not_isLetter (h : isLetter c = false) (b : Bool) (t : List Char) :
    titleFrom b (c :: t) = c :: titleCase t := by
  simp [titleFrom, h, titleCase]

/-- A character that is no letter stays, and behind it a title begins anew. -/
theorem titleCase_append_cons (h : isLetter c = false) (s t : List Char) :
    titleCase (s ++ c :: t) = titleCase s ++ c :: titleCase t := by
  rw [titleCase, titleFrom_append, titleFrom_cons_of_not_isLetter h]
  rfl

/-!
### ASCII characters

The mappings of ASCII characters are simple enough to be gone through: each fact about a character
is checked for all 128 of them.
-/

/-- A text of ASCII characters. -/
def IsAscii (text : List Char) : Prop := ∀ c ∈ text, c.toNat < 0x80

theorem isAscii_cons : IsAscii (c :: s) ↔ c.toNat < 0x80 ∧ IsAscii s := List.forall_mem_cons

/-- What holds of the first 128 characters, one by one, holds of every ASCII character. -/
theorem forall_ascii {P : Char → Prop} (h : ∀ n < 0x80, P (Char.ofNat n)) (hc : c.toNat < 0x80) :
    P c := by
  have hP := h c.toNat hc
  rwa [Char.ofNat_toNat] at hP

/-- The form of an ASCII character in a title. -/
def titleForm (afterLetter : Bool) (c : Char) : Char := if afterLetter then c.toLower else c.toUpper

theorem toNat_titleForm_lt (b : Bool) (hc : c.toNat < 0x80) : (titleForm b c).toNat < 0x80 := by
  revert b
  exact forall_ascii (P := fun c => ∀ b, (titleForm b c).toNat < 0x80) (by decide +kernel) hc

theorem isLetter_titleForm (b : Bool) (hc : c.toNat < 0x80) :
    isLetter (titleForm b c) = isLetter c := by
  revert b
  exact forall_ascii (P := fun c => ∀ b, isLetter (titleForm b c) = isLetter c)
    (by decide +kernel) hc

/-- Where a run of letters begins, and only there, the form of a letter is a capital. -/
theorem isUpper_titleForm (b : Bool) (hc : c.toNat < 0x80) (hletter : isLetter c = true) :
    (titleForm b c).isUpper = !b := by
  revert b
  exact forall_ascii (P := fun c => isLetter c = true → ∀ b, (titleForm b c).isUpper = !b)
    (by decide +kernel) hc hletter

theorem toLower_titleForm (b : Bool) (hc : c.toNat < 0x80) :
    (titleForm b c).toLower = c.toLower := by
  revert b
  exact forall_ascii (P := fun c => ∀ b, (titleForm b c).toLower = c.toLower)
    (by decide +kernel) hc

/-- The form of a character does not depend on its case. -/
theorem titleForm_toLower (b : Bool) (hc : c.toNat < 0x80) :
    titleForm b c.toLower = titleForm b c := by
  revert b
  exact forall_ascii (P := fun c => ∀ b, titleForm b c.toLower = titleForm b c)
    (by decide +kernel) hc

theorem titleFrom_cons_of_ascii (b : Bool) (hc : c.toNat < 0x80) (s : List Char) :
    titleFrom b (c :: s) = titleForm b c :: titleFrom (isLetter c) s := by
  have hform : (if !isLetter c then [c] else if b then lower c else upper c) = [titleForm b c] := by
    revert b
    exact forall_ascii (P := fun c => ∀ b,
      (if !isLetter c then [c] else if b then lower c else upper c) = [titleForm b c])
      (by decide +kernel) hc
  rw [titleFrom, hform, List.singleton_append]

/-!
### Titles of ASCII texts

The flag that runs along is the only thing that a character learns from what is in front of it. All
inductions here are over the text, for either value of the flag.
-/

theorem isAscii_titleFrom (hs : IsAscii s) (b : Bool) : IsAscii (titleFrom b s) := by
  induction s generalizing b with
  | nil => exact hs
  | cons c s ih =>
      obtain ⟨hc, hs⟩ := isAscii_cons.mp hs
      rw [titleFrom_cons_of_ascii b hc]
      exact isAscii_cons.mpr ⟨toNat_titleForm_lt b hc, ih hs _⟩

theorem length_titleFrom (hs : IsAscii s) (b : Bool) : (titleFrom b s).length = s.length := by
  induction s generalizing b with
  | nil => rfl
  | cons c s ih =>
      obtain ⟨hc, hs⟩ := isAscii_cons.mp hs
      rw [titleFrom_cons_of_ascii b hc, List.length_cons, List.length_cons, ih hs]

/-- A title is its text but for the case of the letters. -/
theorem map_toLower_titleFrom (hs : IsAscii s) (b : Bool) :
    (titleFrom b s).map Char.toLower = s.map Char.toLower := by
  induction s generalizing b with
  | nil => rfl
  | cons c s ih =>
      obtain ⟨hc, hs⟩ := isAscii_cons.mp hs
      rw [titleFrom_cons_of_ascii b hc, List.map_cons, List.map_cons, toLower_titleForm b hc, ih hs]

/-- The case of the letters of a text does not count for its title. -/
theorem titleFrom_congr (hs : IsAscii s) (ht : IsAscii t)
    (h : s.map Char.toLower = t.map Char.toLower) (b : Bool) : titleFrom b s = titleFrom b t := by
  -- Letters are letters in either case, so the flag is the same for both texts all along.
  induction s generalizing t b with
  | nil => rw [List.map_eq_nil_iff.mp h.symm]
  | cons c s ih =>
      obtain ⟨d, t, rfl, hd, hst⟩ := List.map_eq_cons_iff.mp h.symm
      obtain ⟨hc, hs⟩ := isAscii_cons.mp hs
      obtain ⟨hd', ht⟩ := isAscii_cons.mp ht
      have hform : titleForm b c = titleForm b d := by
        rw [← titleForm_toLower b hc, ← titleForm_toLower b hd', hd]
      have hletter : isLetter c = isLetter d := by
        rw [← isLetter_titleForm true hc, ← isLetter_titleForm true hd']
        exact congrArg isLetter hd.symm
      rw [titleFrom_cons_of_ascii b hc, titleFrom_cons_of_ascii b hd', hform, hletter,
        ih hs ht hst.symm]

/-- Each letter of a text is a capital exactly if it is the first character or if no letter stands
directly in front of it. -/
def HasTitleCapitals (text : List Char) : Prop :=
  ∀ front c back, text = front ++ c :: back → isLetter c = true →
    (c.isUpper = true ↔ front = [] ∨ ∃ d, front.getLast? = some d ∧ isLetter d = false)

/-- The flag that runs along with a title tells where its capitals are. -/
theorem isUpper_iff_endsInLetter (hs : IsAscii s) {b : Bool} {front back : List Char}
    (h : titleFrom b s = front ++ c :: back) (hletter : isLetter c = true) :
    c.isUpper = !endsInLetter b front := by
  induction s generalizing b front with
  | nil => cases front <;> cases h
  | cons d s ih =>
      obtain ⟨hd, hs⟩ := isAscii_cons.mp hs
      rw [titleFrom_cons_of_ascii b hd] at h
      cases front with
      | nil =>
          -- The letter comes first, so the flag tells what stands in front of it.
          obtain ⟨rfl, -⟩ := List.cons_eq_cons.mp h
          rw [isLetter_titleForm b hd] at hletter
          rw [isUpper_titleForm b hd hletter, endsInLetter_nil]
      | cons e front =>
          obtain ⟨rfl, hrest⟩ := List.cons_eq_cons.mp h
          rw [ih hs hrest, endsInLetter_cons, isLetter_titleForm b hd]

theorem hasTitleCapitals_titleCase (hs : IsAscii s) : HasTitleCapitals (titleCase s) := by
  intro front c back h hletter
  rw [isUpper_iff_endsInLetter hs h hletter, endsInLetter]
  rcases List.eq_nil_or_concat' front with rfl | ⟨front, d, rfl⟩ <;> simp

/-- A text may be cut at every character that is no letter to make its title. The title of an ASCII
text has its length and is its own title, its capitals stand where runs of letters begin, and two
ASCII texts have the same title exactly if they differ in nothing but the case of letters. -/
theorem titleCase_runByRun :
    (∀ s c t, isLetter c = false →
      titleCase (s ++ c :: t) = titleCase s ++ c :: titleCase t) ∧
    ∀ s, IsAscii s →
      (titleCase s).length = s.length ∧ titleCase (titleCase s) = titleCase s ∧
      HasTitleCapitals (titleCase s) ∧
      ∀ t, IsAscii t →
        (titleCase s = titleCase t ↔ s.map Char.toLower = t.map Char.toLower) := by
  refine ⟨fun s c t h => titleCase_append_cons h s t, fun s hs => ?_⟩
  -- Title case keeps the letters up to their case, and the other laws follow from that.
  have hlower : (titleCase s).map Char.toLower = s.map Char.toLower := map_toLower_titleFrom hs false
  refine ⟨length_titleFrom hs false, ?_, hasTitleCapitals_titleCase hs, fun t ht => ⟨?_, ?_⟩⟩
  · exact titleFrom_congr (isAscii_titleFrom hs false) hs hlower false
  · intro h
    rw [← hlower, h]
    exact map_toLower_titleFrom ht false
  · exact fun h => titleFrom_congr hs ht h false

/-- A name with a digit between two runs of letters, and another one that has the same title. -/
theorem titleCase_runByRun_digit :
    isLetter '2' = false ∧ IsAscii "mcp2server".toList ∧ IsAscii "MCP2Server".toList ∧
      titleCase "mcp2server".toList = titleCase "mcp".toList ++ '2' :: titleCase "server".toList ∧
      titleCase (titleCase "mcp2server".toList) = titleCase "mcp2server".toList ∧
      HasTitleCapitals (titleCase "mcp2server".toList) ∧
      titleCase "mcp2server".toList = titleCase "MCP2Server".toList := by
  have hdigit : isLetter '2' = false := by decide
  have hs : IsAscii "mcp2server".toList := by simp [IsAscii]
  have ht : IsAscii "MCP2Server".toList := by simp [IsAscii]
  obtain ⟨hcut, hascii⟩ := titleCase_runByRun
  obtain ⟨-, hself, hcapitals, hsame⟩ := hascii _ hs
  exact ⟨hdigit, hs, ht, hcut "mcp".toList '2' "server".toList hdigit, hself, hcapitals,
    (hsame _ ht).mpr (by decide)⟩

example : titleCase "mcp2server".toList = "Mcp2Server".toList := by decide

end ModuleReadme.Text
