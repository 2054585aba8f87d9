import ModuleReadme.Text.Search
import Mathlib.Data.List.Basic
import Mathlib.Data.List.Infix
import Mathlib.Data.List.TakeWhile

/-!
# Matches in a text that is cut off

A matcher is steady if its matches do not depend on what follows them and a match that begins later
never ends earlier. In a text that is cut off, the matches of a steady matcher are those of the
whole text that end before the cut, at the same positions and with the same values
(`occurrencesFrom_append`): what is lost are the last ones, and nothing is found in their place.

Matchers that are put together from steady ones are steady: one after the other
(`Steady.followedBy`), behind a fixed word (`Steady.after`), or at the first position that is
reached (`Steady.first`).
-/

namespace ModuleReadme.Text

/-!
## Occurrences

The matches of a text with their positions are collected as the matches alone are. Positions count
from the start of the whole text, so the offset goes along with the recursion.
-/

/-- A match together with the numbers of characters in front of it and through its end. -/
structure Occurrence (α : Type) where
  start : Nat
  stop : Nat
  value : α
  deriving DecidableEq

/-- The matches that `allMatches` collects, with their positions, in a text with `offset` characters
in front. -/
def occurrencesFrom (matcher : List Char → Option (α × List Char)) (offset : Nat)
    (text : List Char) : List (Occurrence α) :=
  match text with
  | [] => []
  | c :: tail =>
    match matcher (c :: tail) with
    | some (a, rest) =>
      if rest.length ≤ tail.length then
        { start := offset, stop := offset + (tail.length + 1 - rest.length), value := a } ::
          occurrencesFrom matcher (offset + (tail.length + 1 - rest.length)) rest
      else occurrencesFrom matcher (offset + 1) tail
    | none => occurrencesFrom matcher (offset + 1) tail
termination_by text.length

variable {α β γ : Type} {matcher : List Char → Option (α × List Char)} {text : List Char}

/-- Without their positions the occurrences are the matches. -/
theorem map_value_occurrencesFrom (matcher : List Char → Option (α × List Char)) (offset : Nat)
    (text : List Char) :
    (occurrencesFrom matcher offset text).map (·.value) = allMatches matcher text := by
  fun_induction occurrencesFrom matcher offset text with
  | case1 => rw [allMatches, List.map_nil]
  | case2 offset c tail a rest hmatch hle ih =>
      rw [allMatches]
      simp [hmatch, hle, ih]
  | case3 offset c tail a rest hmatch hle ih =>
      rw [allMatches]
      simp [hmatch, hle, ih]
  | case4 offset c tail hmatch ih =>
      rw [allMatches]
      simp [hmatch, ih]

/-- Every occurrence ends behind the characters in front of the text. -/
theorem lt_stop_of_mem_occurrencesFrom {offset : Nat} {o : Occurrence α}
    (h : o ∈ occurrencesFrom matcher offset text) : offset < o.stop := by
  fun_induction occurrencesFrom matcher offset text with
  | case1 => cases h
  | case2 offset c tail a rest hmatch hle ih =>
      -- A match takes at least one character.
      rcases List.mem_cons.mp h with rfl | h
      · show offset < offset + (tail.length + 1 - rest.length)
        omega
      · have hlt := ih h
        omega
  | case3 offset c tail a rest hmatch hle ih =>
      have hlt := ih h
      omega
  | case4 offset c tail hmatch ih =>
      have hlt := ih h
      omega

/-- Where nothing matches, nothing occurs. -/
theorem occurrencesFrom_eq_nil (offset : Nat) (h : ∀ later, later <:+ text → matcher later = none) :
    occurrencesFrom matcher offset text = [] := by
  induction text generalizing offset with
  | nil => rw [occurrencesFrom]
  | cons c tail ih =>
      rw [occurrencesFrom]
      simp only [h (c :: tail) (List.suffix_refl _)]
      exact ih (offset + 1) fun later hlater => h later (hlater.trans (List.suffix_cons c tail))

/-!
## Steady matchers

Of a steady matcher nothing is found in a text that is cut off which is not found in the whole
text. That needs all three conditions: a match that is cut in two must not make room for another
one, which would begin later and end before the cut.
-/

/-- A matcher whose matches depend on nothing behind them, and of which a match that begins later
does not end earlier. -/
structure Steady (matcher : List Char → Option (α × List Char)) : Prop where
  /-- What is left behind a match is the end of the text. -/
  suffix : ∀ {text rest a}, matcher text = some (a, rest) → rest <:+ text
  /-- A match is there with more text behind it exactly if it is there without. -/
  append_iff : ∀ {text rest a} more,
    matcher (text ++ more) = some (a, rest ++ more) ↔ matcher text = some (a, rest)
  /-- A match that begins later does not end earlier. -/
  ordered : ∀ {text later rest rest' a b}, later <:+ text → matcher text = some (a, rest) →
    matcher later = some (b, rest') → rest' <:+ rest

/-- If a match reaches beyond the text, nothing matches in the text from there on. -/
theorem Steady.eq_none_of_cut (h : Steady matcher) {more rest later : List Char} {a : α}
    (hcut : matcher text = none) (hmatch : matcher (text ++ more) = some (a, rest))
    (hlater : later <:+ text) : matcher later = none := by
  by_contra hsome
  obtain ⟨⟨b, rest'⟩, hsome⟩ := Option.ne_none_iff_exists'.mp hsome
  have hmore : matcher (later ++ more) = some (b, rest' ++ more) := (h.append_iff more).mpr hsome
  have hle : later ++ more <:+ text ++ more :=
    (List.suffix_append_inj_of_length_eq rfl).mpr ⟨hlater, rfl⟩
  -- The match from the front would end in the text as well, and would be there without the rest.
  obtain ⟨back, hback⟩ := h.ordered hle hmatch hmore
  rw [← hback, ← List.append_assoc] at hmatch
  rw [(h.append_iff more).mp hmatch] at hcut
  cases hcut

/-- Cutting a text off leaves those occurrences of a steady matcher that end before the cut. -/
theorem occurrencesFrom_append (h : Steady matcher) (offset : Nat) (text more : List Char) :
    occurrencesFrom matcher offset text =
      (occurrencesFrom matcher offset (text ++ more)).takeWhile
        fun o => o.stop ≤ offset + text.length := by
  fun_induction occurrencesFrom matcher offset text with
  | case1 offset =>
      rw [List.nil_append]
      cases ho : occurrencesFrom matcher offset more with
      | nil => rfl
      | cons o os =>
          have hlt : offset < o.stop :=
            lt_stop_of_mem_occurrencesFrom (ho ▸ List.mem_cons_self)
          simp [hlt]
  | case2 offset c tail a rest hmatch hle ih =>
      have hmore : matcher (c :: (tail ++ more)) = some (a, rest ++ more) :=
        (h.append_iff more).mpr hmatch
      rw [List.cons_append, occurrencesFrom]
      simp only [hmore, List.length_append, Nat.add_le_add_iff_right, hle, if_true]
      have hstop : tail.length + more.length + 1 - (rest.length + more.length) =
          tail.length + 1 - rest.length := by omega
      have hend : offset + (tail.length + 1 - rest.length) + rest.length =
          offset + (c :: tail).length := by
        rw [List.length_cons]
        omega
      rw [hstop, List.takeWhile_cons_of_pos (by simp), ih, hend]
  | case3 offset c tail a rest hmatch hle ih =>
      have hmore : matcher (c :: (tail ++ more)) = some (a, rest ++ more) :=
        (h.append_iff more).mpr hmatch
      rw [List.cons_append, occurrencesFrom]
      simp only [hmore, List.length_append, Nat.add_le_add_iff_right, hle, if_false]
      rw [ih, List.length_cons, Nat.add_assoc, Nat.add_comm 1]
  | case4 offset c tail hmatch ih =>
      cases hmore : matcher (c :: (tail ++ more)) with
      | none =>
          rw [List.cons_append, occurrencesFrom]
          simp only [hmore]
          rw [ih, List.length_cons, Nat.add_assoc, Nat.add_comm 1]
      | some found =>
          obtain ⟨a, rest⟩ := found
          have hnone : ∀ later, later <:+ tail → matcher later = none := fun later hlater =>
            h.eq_none_of_cut hmatch hmore (hlater.trans (List.suffix_cons c tail))
          -- The match cannot end in the text, since it would have been found there.
          have hcut : rest.length < more.length := by
            by_contra hlong
            have hsuffix : more <:+ rest := List.suffix_of_suffix_length_le
              (List.suffix_append (c :: tail) more) (h.suffix hmore) (by omega)
            obtain ⟨back, rfl⟩ := hsuffix
            rw [(h.append_iff more).mp (show matcher (c :: tail ++ more) = _ from hmore)] at hmatch
            cases hmatch
          rw [occurrencesFrom_eq_nil _ hnone, List.cons_append, occurrencesFrom]
          have hle : rest.length ≤ tail.length + more.length := by omega
          simp only [hmore, List.length_append, hle, if_true]
          rw [List.takeWhile_cons_of_neg]
          simp only [List.length_cons, decide_eq_true_eq]
          omega

/-- The occurrences in the first characters of a text are those that end among these. -/
theorem occurrencesFrom_take (h : Steady matcher) (text : List Char) (n : Nat) :
    occurrencesFrom matcher 0 (text.take n) =
      (occurrencesFrom matcher 0 text).takeWhile fun o => o.stop ≤ n := by
  rcases Nat.le_total n text.length with hn | hn
  · have hcut := occurrencesFrom_append h 0 (text.take n) (text.drop n)
    rwa [List.take_append_drop, Nat.zero_add, List.length_take_of_le hn] at hcut
  · -- Nothing is cut off, and no occurrence ends behind the end of the text.
    have hall := occurrencesFrom_append h 0 text []
    rw [List.append_nil, Nat.zero_add, eq_comm, List.takeWhile_eq_self_iff] at hall
    rw [List.take_of_length_le hn, eq_comm, List.takeWhile_eq_self_iff]
    intro o ho
    have hstop := hall o ho
    simp only [decide_eq_true_eq] at hstop ⊢
    omega

/-!
## Matchers that are put together

For a matcher that accepts some texts, of which none overlaps with another one, there is nothing to
show but that. From such matchers others are made by putting them in a row.
-/

/-- A matcher that accepts fixed texts in front of anything depends on nothing behind them. -/
theorem Steady.of_fronts {IsFront : α → List Char → Prop}
    (h : ∀ {text rest a}, matcher text = some (a, rest) ↔
      ∃ front, IsFront a front ∧ text = front ++ rest)
    (hordered : ∀ {text later rest rest' a b}, later <:+ text → matcher text = some (a, rest) →
      matcher later = some (b, rest') → rest' <:+ rest) : Steady matcher where
  suffix hmatch := by
    obtain ⟨front, -, rfl⟩ := h.mp hmatch
    exact List.suffix_append front _
  append_iff more := by
    rw [h, h]
    simp only [← List.append_assoc, List.append_left_inj]
  ordered := hordered

/-- A matcher that accepts fixed texts, inside of which no other match begins, is steady. -/
theorem Steady.of_separate {IsFront : α → List Char → Prop}
    (h : ∀ {text rest a}, matcher text = some (a, rest) ↔
      ∃ front, IsFront a front ∧ text = front ++ rest)
    (hinside : ∀ {a front later} rest, IsFront a front → later <:+ front.tail → later ≠ [] →
      matcher (later ++ rest) = none) : Steady matcher := by
  apply Steady.of_fronts h
  intro text later rest rest' a b hlater hmatch hmatch'
  obtain ⟨front, hfront, rfl⟩ := h.mp hmatch
  obtain ⟨front', -, rfl⟩ := h.mp hmatch'
  have hends : rest' <:+ front' ++ rest' := List.suffix_append front' rest'
  rcases List.suffix_or_suffix_of_suffix hlater (List.suffix_append front _) with hle | hle
  · exact hends.trans hle
  · -- The second match begins within the first one, and so they are the same.
    obtain ⟨last, hlast⟩ := hle
    rw [← hlast] at hlater hmatch' hends
    have hlater : last <:+ front := ((List.suffix_append_inj_of_length_eq rfl).mp hlater).1
    cases front with
    | nil =>
        rw [List.suffix_nil.mp hlater] at hends
        exact hends
    | cons c front =>
        rcases List.suffix_cons_iff.mp hlater with rfl | hlater
        · rw [hmatch] at hmatch'
          cases hmatch'
          exact List.suffix_refl _
        · by_cases hne : last = []
          · rw [hne] at hends
            exact hends
          · rw [hinside _ hfront hlater hne] at hmatch'
            cases hmatch'

/-- The matcher that matches everywhere and takes nothing is steady. -/
theorem steady_some : Steady fun text => some ((), text) where
  suffix h := by
    cases h
    exact List.suffix_refl _
  append_iff more := by simp
  ordered hlater h h' := by
    cases h
    cases h'
    exact hlater

/-- Behind a fixed word a steady matcher is steady. -/
theorem Steady.after (h : Steady matcher) (word : List Char) :
    Steady fun text => (after? word text).bind matcher where
  suffix hmatch := by
    obtain ⟨here, hword, hmatch⟩ := Option.bind_eq_some_iff.mp hmatch
    rw [after?_eq_some_iff.mp hword]
    exact (h.suffix hmatch).trans (List.suffix_append word here)
  append_iff {text rest a} more := by
    simp only [Option.bind_eq_some_iff, after?_eq_some_iff]
    constructor
    · rintro ⟨here, htext, hmatch⟩
      -- The match ends in the text, so that the text reaches to where it begins.
      obtain ⟨back, rfl⟩ := h.suffix hmatch
      rw [← List.append_assoc] at hmatch htext
      rw [← List.append_assoc, List.append_cancel_right_eq, List.append_assoc] at htext
      exact ⟨back ++ rest, htext, (h.append_iff more).mp hmatch⟩
    · rintro ⟨here, rfl, hmatch⟩
      exact ⟨here ++ more, List.append_assoc .., (h.append_iff more).mpr hmatch⟩
  ordered hlater hmatch hmatch' := by
    obtain ⟨here, hword, hhere⟩ := Option.bind_eq_some_iff.mp hmatch
    obtain ⟨here', hword', hhere'⟩ := Option.bind_eq_some_iff.mp hmatch'
    obtain rfl := after?_eq_some_iff.mp hword
    obtain rfl := after?_eq_some_iff.mp hword'
    have hle := hlater.length_le
    simp only [List.length_append] at hle
    have hsuffix : here' <:+ here := List.suffix_of_suffix_length_le
      ((List.suffix_append word here').trans hlater) (List.suffix_append word here) (by omega)
    exact h.ordered hsuffix hhere hhere'

/-- Two steady matchers, one after the other, are steady. -/
theorem Steady.followedBy {next : List Char → Option (β × List Char)} (h : Steady matcher)
    (hnext : Steady next) (f : α → β → γ) :
    Steady fun text => (matcher text).bind fun (a, rest) =>
      (next rest).map fun (b, rest) => (f a b, rest) where
  suffix hmatch := by
    obtain ⟨⟨a, mid⟩, hfirst, hmatch⟩ := Option.bind_eq_some_iff.mp hmatch
    obtain ⟨⟨b, rest⟩, hsecond, heq⟩ := Option.map_eq_some_iff.mp hmatch
    cases heq
    exact (hnext.suffix hsecond).trans (h.suffix hfirst)
  append_iff {text rest c} more := by
    simp only [Option.bind_eq_some_iff, Option.map_eq_some_iff, Prod.exists, Prod.mk.injEq]
    constructor
    · rintro ⟨a, mid, hfirst, b, _, hsecond, hc, rfl⟩
      -- The second match ends in the text, so the first one does.
      obtain ⟨back, rfl⟩ := hnext.suffix hsecond
      rw [← List.append_assoc] at hfirst hsecond
      exact ⟨a, back ++ rest, (h.append_iff more).mp hfirst, b, rest,
        (hnext.append_iff more).mp hsecond, hc, rfl⟩
    · rintro ⟨a, mid, hfirst, b, rest, hsecond, hc, rfl⟩
      exact ⟨a, mid ++ more, (h.append_iff more).mpr hfirst, b, rest ++ more,
        (hnext.append_iff more).mpr hsecond, hc, rfl⟩
  ordered hlater hmatch hmatch' := by
    obtain ⟨⟨a, mid⟩, hfirst, hmatch⟩ := Option.bind_eq_some_iff.mp hmatch
    obtain ⟨⟨b, rest⟩, hsecond, heq⟩ := Option.map_eq_some_iff.mp hmatch
    obtain ⟨⟨a', mid'⟩, hfirst', hmatch'⟩ := Option.bind_eq_some_iff.mp hmatch'
    obtain ⟨⟨b', rest'⟩, hsecond', heq'⟩ := Option.map_eq_some_iff.mp hmatch'
    cases heq
    cases heq'
    exact hnext.ordered (h.ordered hlater hfirst hfirst') hsecond hsecond'

/-!
## The first match that is reached

A search that may not pass some characters finds the first match in front of them. `leftmost` is the
case in which all characters may be passed, so what is shown here holds of it as well.
-/

/-- The answer of a matcher at the first position that is reached through characters in `p`. -/
def firstThrough (p : Char → Bool) (matcher : List Char → Option α) : List Char → Option α
  | [] => matcher []
  | c :: text =>
    match matcher (c :: text) with
    | some a => some a
    | none => if p c then firstThrough p matcher text else none

theorem map_firstThrough (f : α → β) (p : Char → Bool) (matcher : List Char → Option α)
    (text : List Char) : (firstThrough p matcher text).map f =
      firstThrough p (fun here => (matcher here).map f) text := by
  induction text with
  | nil => rfl
  | cons c text ih =>
      rw [firstThrough, firstThrough]
      cases matcher (c :: text) with
      | some a => rfl
      | none =>
          simp only [Option.map_none]
          split
          · exact ih
          · rfl

theorem leftmost_eq_firstThrough (matcher : List Char → Option α) (text : List Char) :
    leftmost matcher text = firstThrough (fun _ => true) matcher text := by
  induction text with
  | nil => rfl
  | cons c text ih =>
      rw [leftmost, firstThrough, ih]
      rfl

theorem firstThrough_eq_some_iff {p : Char → Bool} {matcher : List Char → Option α} {a : α} :
    firstThrough p matcher text = some a ↔
      ∃ front here, text = front ++ here ∧ (∀ c ∈ front, p c = true) ∧ matcher here = some a ∧
        ∀ back, back <:+ front → back ≠ [] → matcher (back ++ here) = none := by
  induction text with
  | nil =>
      constructor
      · intro h
        exact ⟨[], [], rfl, by simp, h, by simp⟩
      · rintro ⟨front, here, htext, -, hhere, -⟩
        obtain ⟨rfl, rfl⟩ := List.append_eq_nil_iff.mp htext.symm
        exact hhere
  | cons c text ih =>
      rw [firstThrough]
      cases hmatch : matcher (c :: text) with
      | some b =>
          constructor
          · intro h
            exact ⟨[], c :: text, rfl, by simp, hmatch.trans h, by simp⟩
          · rintro ⟨front, here, htext, -, hhere, hfirst⟩
            -- In front of the first match there is no other one.
            have hnil : front = [] := by
              by_contra hne
              have hnone := hfirst front (List.suffix_refl _) hne
              rw [← htext, hmatch] at hnone
              cases hnone
            rw [hnil, List.nil_append] at htext
            rw [← htext, hmatch] at hhere
            exact hhere
      | none =>
          simp only
          constructor
          · -- The character is passed, and is one more in front of what is found.
            intro h
            by_cases hc : p c = true
            · rw [if_pos hc] at h
              obtain ⟨front, here, rfl, hfront, hhere, hfirst⟩ := ih.mp h
              have hall : ∀ d ∈ c :: front, p d = true := List.forall_mem_cons.mpr ⟨hc, hfront⟩
              refine ⟨c :: front, here, rfl, hall, hhere, ?_⟩
              intro back hback hne
              rcases List.suffix_cons_iff.mp hback with rfl | hback
              · exact hmatch
              · exact hfirst back hback hne
            · rw [if_neg hc] at h
              cases h
          · rintro ⟨front, here, htext, hfront, hhere, hfirst⟩
            cases front with
            | nil =>
                rw [List.nil_append] at htext
                rw [htext, hhere] at hmatch
                cases hmatch
            | cons d front =>
                obtain ⟨rfl, rfl⟩ := List.cons_eq_cons.mp htext
                have hfront := List.forall_mem_cons.mp hfront
                rw [if_pos hfront.1]
                exact ih.mpr ⟨front, here, rfl, hfront.2, hhere, fun back hback =>
                  hfirst back (hback.trans (List.suffix_cons c front))⟩

/-- At the first position that is reached a steady matcher is steady. -/
theorem Steady.first (h : Steady matcher) (p : Char → Bool) : Steady (firstThrough p matcher) where
  suffix hmatch := by
    obtain ⟨front, here, rfl, -, hhere, -⟩ := firstThrough_eq_some_iff.mp hmatch
    exact (h.suffix hhere).trans (List.suffix_append front here)
  append_iff {text rest a} more := by
    rw [firstThrough_eq_some_iff, firstThrough_eq_some_iff]
    constructor
    · rintro ⟨front, here, htext, hfront, hhere, hfirst⟩
      obtain ⟨back, rfl⟩ := h.suffix hhere
      rw [← List.append_assoc] at hhere htext hfirst
      rw [← List.append_assoc, List.append_cancel_right_eq, List.append_assoc] at htext
      refine ⟨front, back ++ rest, htext, hfront, (h.append_iff more).mp hhere, ?_⟩
      intro skipped hskipped hne
      by_contra hsome
      obtain ⟨⟨b, rest'⟩, hsome⟩ := Option.ne_none_iff_exists'.mp hsome
      have hmore := (h.append_iff more).mpr hsome
      rw [List.append_assoc, hfirst skipped hskipped hne] at hmore
      cases hmore
    · rintro ⟨front, here, rfl, hfront, hhere, hfirst⟩
      have hmore := (h.append_iff more).mpr hhere
      refine ⟨front, here ++ more, List.append_assoc .., hfront, hmore, ?_⟩
      -- An earlier match that needs more text would end later than one that does not.
      intro skipped hskipped hne
      by_contra hsome
      obtain ⟨⟨b, rest'⟩, hsome⟩ := Option.ne_none_iff_exists'.mp hsome
      obtain ⟨back, rfl⟩ := h.ordered (List.suffix_append ..) hsome hmore
      rw [← List.append_assoc, ← List.append_assoc, h.append_iff, hfirst skipped hskipped hne]
        at hsome
      cases hsome
  ordered hlater hmatch hmatch' := by
    obtain ⟨front, here, rfl, -, hhere, hfirst⟩ := firstThrough_eq_some_iff.mp hmatch
    obtain ⟨front', here', rfl, -, hhere', -⟩ := firstThrough_eq_some_iff.mp hmatch'
    have hsuffix : here' <:+ front ++ here := (List.suffix_append front' here').trans hlater
    rcases List.suffix_or_suffix_of_suffix hsuffix (List.suffix_append front here) with hle | hle
    · exact h.ordered hle hhere hhere'
    · -- The second match cannot begin earlier, since the first one is the first of all.
      obtain ⟨back, rfl⟩ := hle
      have hback : back <:+ front := ((List.suffix_append_inj_of_length_eq rfl).mp hsuffix).1
      by_cases hne : back = []
      · subst hne
        exact h.ordered (List.suffix_refl _) hhere hhere'
      · rw [hfirst back hback hne] at hhere'
        cases hhere'

/-- At the first position at which it has a match a steady matcher is steady. -/
theorem Steady.leftmost (h : Steady matcher) : Steady (leftmost matcher) := by
  rw [funext (leftmost_eq_firstThrough matcher)]
  exact h.first _

/-- The first occurrence of a word is found steadily. -/
theorem steady_afterFirst? (word : List Char) :
    Steady fun text => (afterFirst? word text).map ((), ·) := by
  have hword : ∀ text, (afterFirst? word text).map ((), ·) =
      Text.leftmost (fun here => (after? word here).bind fun rest => some ((), rest)) text := by
    intro text
    rw [afterFirst?, leftmost_eq_firstThrough, map_firstThrough, leftmost_eq_firstThrough]
    simp only [Option.map_eq_bind]
    rfl
  rw [funext hword]
  exact (steady_some.after word).leftmost

/-- A steady matcher finds in the front of a text the first of what it finds in the whole text. -/
theorem allMatches_append_isPrefix (h : Steady matcher) (text more : List Char) :
    allMatches matcher text <+: allMatches matcher (text ++ more) := by
  rw [← map_value_occurrencesFrom matcher 0, ← map_value_occurrencesFrom matcher 0,
    occurrencesFrom_append h]
  exact (List.takeWhile_prefix _).map _

end ModuleReadme.Text
