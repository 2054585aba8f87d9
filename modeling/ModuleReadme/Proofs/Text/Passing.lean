import ModuleReadme.Proofs.Text.Occurrences

/-!
# Searches that pass over text

What a search finds is a match somewhere in the text. It goes past a piece of text in which no match
begins, whatever follows the piece, and takes the match behind it (`leftmost_append`,
`allMatches_append_of_none`, `allMatches_append_of_some`). Whether a word begins in the piece can
mostly be told from the piece alone: that it is cut in two by the end of the piece is ruled out by
the next character (`after?_append_eq_none`).
-/

namespace ModuleReadme.Text

variable {α : Type} {text front here later rest tail word : List Char}

/-!
## What is found

A search finds nothing exactly if nothing matches from any position on, and what it finds is a match
somewhere.
-/

theorem leftmost_eq_none_iff {matcher : List Char → Option α} :
    leftmost matcher text = none ↔ ∀ later, later <:+ text → matcher later = none := by
  induction text with
  | nil => simp [leftmost]
  | cons c text ih =>
      rw [leftmost]
      simp only [List.suffix_cons_iff, forall_eq_or_imp, ← ih]
      cases matcher (c :: text) <;> simp

/-- What is found first is a match. -/
theorem exists_of_leftmost_eq_some {matcher : List Char → Option α} {a : α}
    (h : leftmost matcher text = some a) : ∃ later, later <:+ text ∧ matcher later = some a := by
  rw [leftmost_eq_firstThrough, firstThrough_eq_some_iff] at h
  obtain ⟨front, here, rfl, -, hhere, -⟩ := h
  exact ⟨here, List.suffix_append front here, hhere⟩

/-- Everything that is collected comes from a match. -/
theorem exists_of_mem_allMatches {matcher : List Char → Option (α × List Char)} {a : α}
    (h : a ∈ allMatches matcher text) : ∃ later rest, matcher later = some (a, rest) := by
  fun_induction allMatches matcher text with
  | case1 => cases h
  | case2 c tail b rest hmatch _ ih =>
      rcases List.mem_cons.mp h with rfl | h
      · exact ⟨_, _, hmatch⟩
      · exact ih h
  | case3 c tail b rest _ _ ih => exact ih h
  | case4 c tail _ ih => exact ih h

/-! ## Suffixes of a text in pieces -/

theorem suffix_append_cons_cases {c : Char} (h : later <:+ front ++ c :: rest) :
    later <:+ rest ∨ ∃ last, last <:+ front ∧ later = last ++ c :: rest := by
  rcases List.suffix_or_suffix_of_suffix h (List.suffix_append front _) with hle | ⟨last, rfl⟩
  · rcases List.suffix_cons_iff.mp hle with rfl | hle
    · exact .inr ⟨[], List.nil_suffix, rfl⟩
    · exact .inl hle
  · exact .inr ⟨last, ((List.suffix_append_inj_of_length_eq rfl).mp h).1, rfl⟩

/-!
## Words

A word that begins in a piece of text either lies in it or is cut in two by its end. In the second
case the character behind the piece is in the word.
-/

/-- A word does not reach beyond a character that it does not hold. -/
theorem after?_append_cons {c : Char} (hc : c ∉ word) (here rest : List Char) :
    after? word (here ++ c :: rest) = (after? word here).map (· ++ c :: rest) := by
  induction word generalizing here with
  | nil => rfl
  | cons w word ih =>
      rw [List.mem_cons, not_or] at hc
      cases here with
      | nil => simp [after?, Ne.symm hc.1]
      | cons d here =>
          rw [List.cons_append, after?, after?]
          split
          · exact ih hc.2 here
          · rfl

/-- A word does not begin in a text that does not hold it, if what follows the text is none of the
later characters of the word. -/
theorem after?_append_eq_none (hne : later ≠ []) (hword : ¬ word <:+: later)
    (hrest : ∀ c ∈ rest.head?, c ∉ word.tail) : after? word (later ++ rest) = none := by
  by_contra hsome
  obtain ⟨found, hfound⟩ := Option.ne_none_iff_exists'.mp hsome
  -- The word ends behind the text, at its end, or within it.
  rcases List.append_eq_append_iff.mp (after?_eq_some_iff.mp hfound) with
    ⟨more, rfl, hmore⟩ | ⟨more, rfl, -⟩
  · cases more with
    | nil => exact hword (by rw [List.append_nil])
    | cons c more =>
        refine hrest c (by rw [hmore]; rfl) ?_
        rw [List.tail_append_of_ne_nil hne]
        exact List.mem_append_right _ List.mem_cons_self
  · exact hword (List.prefix_append word more).isInfix

/-!
## Searches

The first match can be told without the search: it begins at the smallest offset at which anything
does (`IsFirst`). Where the matcher answers with a relation `P`, so does the search.
-/

/-- The search takes the match behind a text in which no match begins. -/
theorem leftmost_append {matcher : List Char → Option α} {a : α} (h : matcher rest = some a)
    (hfirst : ∀ later, later <:+ front → later ≠ [] → matcher (later ++ rest) = none) :
    leftmost matcher (front ++ rest) = some a := by
  rw [leftmost_eq_firstThrough, firstThrough_eq_some_iff]
  exact ⟨front, rest, rfl, fun _ _ => rfl, h, hfirst⟩

/-- `P a` holds of the text from some position on, and from no earlier position on `P` holds of
anything. -/
inductive IsFirst (P : α → List Char → Prop) (a : α) : List Char → Prop
  | intro {front here : List Char} (hhere : P a here)
      (hfirst : ∀ b front' here', front ++ here = front' ++ here' → P b here' →
        front.length ≤ front'.length) : IsFirst P a (front ++ here)

/-- What is found first, or `fallback` if nothing is found. -/
inductive IsFirstOr (fallback : α) (P : α → List Char → Prop) : α → List Char → Prop
  | found {a : α} {text : List Char} (h : IsFirst P a text) : IsFirstOr fallback P a text
  | missing {text : List Char} (h : ∀ a front here, text = front ++ here → ¬ P a here) :
      IsFirstOr fallback P fallback text

section FirstMatch

variable {matcher : List Char → Option α} {P : α → List Char → Prop} {a fallback : α}

/-- If a matcher tells of what `P` holds at the front of a text, the search finds the first of it. -/
theorem leftmost_eq_some_iff (h : ∀ {here a}, matcher here = some a ↔ P a here) :
    leftmost matcher text = some a ↔ IsFirst P a text := by
  constructor
  · intro hleftmost
    rw [leftmost_eq_firstThrough, firstThrough_eq_some_iff] at hleftmost
    obtain ⟨front, here, rfl, -, hhere, hfirst⟩ := hleftmost
    refine .intro (h.mp hhere) fun b front' here' heq hb => ?_
    rcases List.append_eq_append_iff.mp heq with ⟨more, rfl, -⟩ | ⟨back, rfl, rfl⟩
    · exact (List.prefix_append front more).length_le
    · by_contra hlonger
      have hne : back ≠ [] := by
        rintro rfl
        exact hlonger (by rw [List.append_nil])
      have hnone := hfirst back (List.suffix_append front' back) hne
      rw [h.mpr hb] at hnone
      cases hnone
  · -- A match in front would begin at a smaller offset.
    rintro @⟨front, here, hhere, hfirst⟩
    refine leftmost_append (h.mpr hhere) ?_
    rintro later ⟨skipped, rfl⟩ hne
    by_contra hsome
    obtain ⟨b, hb⟩ := Option.ne_none_iff_exists'.mp hsome
    have hle := hfirst b skipped (later ++ here) (List.append_assoc ..) (h.mp hb)
    have hpos := List.length_pos_of_ne_nil hne
    rw [List.length_append] at hle
    omega

theorem leftmost_eq_none_iff_forall (h : ∀ {here a}, matcher here = some a ↔ P a here) :
    leftmost matcher text = none ↔ ∀ a front here, text = front ++ here → ¬ P a here := by
  rw [leftmost_eq_none_iff]
  constructor
  · rintro hnone a front here rfl ha
    have hfound := h.mpr ha
    rw [hnone here (List.suffix_append front here)] at hfound
    cases hfound
  · rintro hnot here ⟨front, rfl⟩
    by_contra hsome
    obtain ⟨a, ha⟩ := Option.ne_none_iff_exists'.mp hsome
    exact hnot a front here rfl (h.mp ha)

theorem getD_leftmost_eq_iff (h : ∀ {here a}, matcher here = some a ↔ P a here) :
    (leftmost matcher text).getD fallback = a ↔ IsFirstOr fallback P a text := by
  constructor
  · rintro rfl
    cases hfound : leftmost matcher text with
    | none => exact .missing ((leftmost_eq_none_iff_forall h).mp hfound)
    | some b => exact .found ((leftmost_eq_some_iff h).mp hfound)
  · rintro (hfound | hnone)
    · rw [(leftmost_eq_some_iff h).mpr hfound, Option.getD_some]
    · rw [(leftmost_eq_none_iff_forall h).mpr hnone, Option.getD_none]

end FirstMatch

/-- The first occurrence of a word is behind a text that does not hold it. -/
theorem afterFirst?_append (hword : ¬ word <:+: tail) (hhead : ∀ c ∈ word.head?, c ∉ word.tail)
    (rest : List Char) : afterFirst? word (tail ++ (word ++ rest)) = some rest := by
  have hne : word ≠ [] := by
    rintro rfl
    exact hword List.nil_infix
  refine leftmost_append (after?_append word rest) fun later hlater hlaterne => ?_
  refine after?_append_eq_none hlaterne (mt (·.trans hlater.isInfix) hword) ?_
  rwa [List.head?_append_of_ne_nil _ hne]

/-- The search goes past a text in which no match begins. -/
theorem allMatches_append_of_none {matcher : List Char → Option (α × List Char)}
    (h : ∀ later, later <:+ front → later ≠ [] → matcher (later ++ rest) = none) :
    allMatches matcher (front ++ rest) = allMatches matcher rest := by
  induction front with
  | nil => rfl
  | cons c front ih =>
      have hnone := h (c :: front) (List.suffix_refl _) (List.cons_ne_nil _ _)
      rw [List.cons_append] at hnone ⊢
      rw [allMatches, hnone]
      exact ih fun later hlater => h later (hlater.trans (List.suffix_cons c front))

/-- The search takes a match that is not empty and goes on behind it. -/
theorem allMatches_append_of_some {matcher : List Char → Option (α × List Char)} {a : α}
    (hne : front ≠ []) (h : matcher (front ++ rest) = some (a, rest)) :
    allMatches matcher (front ++ rest) = a :: allMatches matcher rest := by
  obtain ⟨c, front, rfl⟩ := List.exists_cons_of_ne_nil hne
  rw [List.cons_append] at h ⊢
  rw [allMatches, h]
  simp

end ModuleReadme.Text
