import ModuleReadme.Text.Line
import Mathlib.Data.List.DropRight

/-!
# What trimming leaves

Trimming takes nothing but the blanks at both ends. What is left begins with no blank
(`not_isBlank_head_trim`). A text that neither begins nor ends with a blank is left as it is
(`trim_eq_self`), and it is what is left when there are blanks around it (`trim_append`).
-/

namespace ModuleReadme.Text

/-!
## Dropping and taking from the end

What is dropped from the end is the longest run of characters that are to be dropped: it stands
behind what is left (`exists_dropEndWhile`), and what is left does not end in such a character.
Both together tell what is dropped (`dropEndWhile_append`).
-/

/-- Dropping from the end is the operation of the library. -/
theorem dropEndWhile_eq_rdropWhile (p : Char → Bool) (cs : List Char) :
    dropEndWhile p cs = cs.rdropWhile p := rfl

theorem isPrefix_dropEndWhile (p : Char → Bool) (cs : List Char) : dropEndWhile p cs <+: cs :=
  List.rdropWhile_prefix p cs

/-- What is left does not end with a character that was to be dropped. -/
theorem not_of_getLast?_dropEndWhile {p : Char → Bool} {cs : List Char} {c : Char}
    (h : (dropEndWhile p cs).getLast? = some c) : p c = false := by
  have hne : dropEndWhile p cs ≠ [] := by
    intro hnil
    simp [hnil] at h
  rw [List.getLast?_eq_some_getLast hne, Option.some.injEq] at h
  rw [← h]
  exact eq_false_of_ne_true (List.rdropWhile_last_not p cs hne)

theorem dropEndWhile_append_of_pos {p : Char → Bool} {c : Char} (h : p c = true)
    (cs : List Char) : dropEndWhile p (cs ++ [c]) = dropEndWhile p cs :=
  List.rdropWhile_concat_pos p cs c h

/-- Nothing is dropped from a text whose last character is not to be dropped. -/
theorem dropEndWhile_eq_self {p : Char → Bool} {cs : List Char}
    (h : ∀ c, cs.getLast? = some c → p c = false) : dropEndWhile p cs = cs := by
  rw [dropEndWhile_eq_rdropWhile, List.rdropWhile_eq_self_iff]
  intro hne
  simp [h _ (List.getLast?_eq_some_getLast hne)]

theorem mem_takeEndWhile_imp {p : Char → Bool} {cs : List Char} {c : Char}
    (h : c ∈ takeEndWhile p cs) : p c = true := by
  rw [takeEndWhile, List.mem_reverse] at h
  exact List.mem_takeWhile_imp h

/-- A run at the end that reaches as far as possible is what is dropped. -/
theorem dropEndWhile_append {p : Char → Bool} {cs run : List Char}
    (hcs : ∀ c ∈ cs.getLast?, p c = false) (hrun : ∀ c ∈ run, p c = true) :
    dropEndWhile p (cs ++ run) = cs := by
  rw [dropEndWhile, List.reverse_append, List.dropWhile_append_of_pos (by simpa using hrun),
    ← dropEndWhile]
  exact dropEndWhile_eq_self hcs

theorem takeEndWhile_append {p : Char → Bool} {cs run : List Char}
    (hcs : ∀ c ∈ cs.getLast?, p c = false) (hrun : ∀ c ∈ run, p c = true) :
    takeEndWhile p (cs ++ run) = run := by
  have hparts := dropEndWhile_append_takeEndWhile p (cs ++ run)
  rw [dropEndWhile_append hcs hrun] at hparts
  exact List.append_cancel_left hparts

/-- What is dropped stands behind what is left. -/
theorem exists_dropEndWhile (p : Char → Bool) (cs : List Char) :
    ∃ run, (∀ c ∈ run, p c = true) ∧ cs = dropEndWhile p cs ++ run :=
  ⟨takeEndWhile p cs, fun _ => mem_takeEndWhile_imp,
    (dropEndWhile_append_takeEndWhile p cs).symm⟩

/-!
## Blanks at both ends

Trimming takes the blanks in front first and then those at the end. The lemmas on one side are put
together where a text is not blank throughout; from a blank text everything is taken in front
already.
-/

/-! ### One end -/

theorem trimStart_append {before : List Char} (h : ∀ c ∈ before, isBlank c = true)
    (rest : List Char) : trimStart (before ++ rest) = trimStart rest :=
  List.dropWhile_append_of_pos h

theorem trimStart_cons {c : Char} (h : isBlank c = false) (rest : List Char) :
    trimStart (c :: rest) = c :: rest :=
  List.dropWhile_cons_of_neg (by simp [h])

/-- The blanks that are trimmed away stand in front of what is left. -/
theorem exists_trimStart (text : List Char) :
    ∃ before, (∀ c ∈ before, isBlank c = true) ∧ text = before ++ trimStart text :=
  ⟨text.takeWhile isBlank, fun _ hc => List.mem_takeWhile_imp hc,
    List.takeWhile_append_dropWhile.symm⟩

theorem not_isBlank_head_trimStart {cs : List Char} {c : Char} (h : c ∈ (trimStart cs).head?) :
    isBlank c = false := by
  have hhead := List.head?_dropWhile_not isBlank cs
  rw [← trimStart, h] at hhead
  simpa using hhead

theorem exists_trimEnd (text : List Char) :
    ∃ after, (∀ c ∈ after, isBlank c = true) ∧ text = trimEnd text ++ after :=
  exists_dropEndWhile isBlank text

theorem not_isBlank_getLast_trimEnd {cs : List Char} {c : Char} (h : c ∈ (trimEnd cs).getLast?) :
    isBlank c = false :=
  not_of_getLast?_dropEndWhile h

/-! ### Both ends -/

/-- The blanks around a text and what trimming leaves of it. -/
theorem exists_trim (text : List Char) :
    ∃ before after, (∀ c ∈ before, isBlank c = true) ∧ (∀ c ∈ after, isBlank c = true) ∧
      text = before ++ (trim text ++ after) := by
  obtain ⟨before, hbefore, htext⟩ := exists_trimStart text
  obtain ⟨after, hafter, htrim⟩ := exists_trimEnd (trimStart text)
  refine ⟨before, after, hbefore, hafter, ?_⟩
  rw [trim, ← htrim, ← htext]

/-- Blanks around a text that neither begins nor ends with a blank are trimmed away. -/
theorem trim_append {before cs after : List Char} (hbefore : ∀ c ∈ before, isBlank c = true)
    (hhead : ∃ c ∈ cs.head?, isBlank c = false) (hlast : ∀ c ∈ cs.getLast?, isBlank c = false)
    (hafter : ∀ c ∈ after, isBlank c = true) : trim (before ++ (cs ++ after)) = cs := by
  obtain ⟨c, hc, hblank⟩ := hhead
  obtain ⟨rest, rfl⟩ := List.head?_eq_some_iff.mp hc
  -- The first character is no blank, so what is taken in front ends with `before`.
  rw [trim, trimStart_append hbefore, List.cons_append, trimStart_cons hblank, ← List.cons_append]
  exact dropEndWhile_append hlast hafter

theorem isInfix_trim (cs : List Char) : trim cs <:+: cs :=
  (isPrefix_dropEndWhile isBlank (trimStart cs)).isInfix.trans
    (List.dropWhile_suffix isBlank).isInfix

/-- What trimming leaves begins with no blank. -/
theorem not_isBlank_head_trim {cs rest : List Char} {c : Char} (h : trim cs = c :: rest) :
    isBlank c = false := by
  have hpre : trim cs <+: trimStart cs := isPrefix_dropEndWhile isBlank (trimStart cs)
  rw [h] at hpre
  obtain ⟨more, hmore⟩ := hpre
  have hhead : c ∈ (trimStart cs).head? := by
    rw [← hmore]
    rfl
  exact not_isBlank_head_trimStart hhead

/-- A text that neither begins nor ends with a blank is left as it is. -/
theorem trim_eq_self {cs : List Char} (hhead : ∀ c ∈ cs.head?, isBlank c = false)
    (hlast : ∀ c ∈ cs.getLast?, isBlank c = false) : trim cs = cs := by
  cases cs with
  | nil => rfl
  | cons c cs =>
      rw [trim, trimStart_cons (hhead c rfl)]
      exact dropEndWhile_eq_self hlast

/-! ### Blanks at the end alone -/

/-- What stands in front of something else than blanks stays. -/
theorem trimEnd_append {cs : List Char} (h : trimEnd cs ≠ []) (before : List Char) :
    trimEnd (before ++ cs) = before ++ trimEnd cs := by
  have hne : (cs.reverse.dropWhile isBlank).isEmpty = false := by
    rw [List.isEmpty_eq_false_iff]
    intro hnil
    rw [trimEnd, dropEndWhile, hnil] at h
    exact h rfl
  rw [trimEnd, trimEnd, dropEndWhile, dropEndWhile, List.reverse_append, List.dropWhile_append, hne,
    if_neg Bool.false_ne_true, List.reverse_append, List.reverse_reverse]

/-- The blanks that trimming takes stand around what it leaves. -/
theorem takeWhile_append_trim (cs : List Char) :
    ∃ after, cs = cs.takeWhile isBlank ++ trim cs ++ after := by
  obtain ⟨after, hafter⟩ := isPrefix_dropEndWhile isBlank (trimStart cs)
  refine ⟨after, ?_⟩
  rw [trim, trimEnd, List.append_assoc, hafter, trimStart, List.takeWhile_append_dropWhile]

/-- Taking the blanks at the end leaves those in front of something else. -/
theorem trimEnd_eq {cs : List Char} (h : trim cs ≠ []) :
    trimEnd cs = cs.takeWhile isBlank ++ trim cs := by
  rw [trim, ← trimEnd_append h, trimStart, List.takeWhile_append_dropWhile]

end ModuleReadme.Text
