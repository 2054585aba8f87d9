import ModuleReadme.Controller.Annotation
import ModuleReadme.Proofs.Controller.Positions
import ModuleReadme.Proofs.Text.Occurrences
import ModuleReadme.Proofs.Text.Trimming
import Mathlib.Data.List.TakeWhile

/-!
# Arguments of parameter annotations

An argument of a parameter annotation is a word, an equals sign between blanks, and a literal
(`IsArgument`). The literal is the first one behind the word; so of two arguments the one that
begins later does not end earlier, even if it begins inside the literal of the other
(`IsArgument.ordered`). This makes the search for annotations steady (`steady_requestParam?`).
-/

namespace ModuleReadme.Controller

section

open Text

variable {words : List (List Char)} {text later front value rest rest' : List Char}

/-!
## The shape of an argument

The matchers go from left to right and skip blanks where there may be any. Each is described by the
texts that it takes off the front.
-/

/-- An equals sign between blanks and a literal in quotes that is not empty. -/
inductive IsAssignment (value : List Char) : List Char → Prop
  | intro {before after : List Char} {q q' : Char} (hbefore : ∀ c ∈ before, isBlank c = true)
      (hafter : ∀ c ∈ after, isBlank c = true) (hq : isQuote q = true) (hq' : isQuote q' = true)
      (hne : value ≠ []) (hvalue : ∀ c ∈ value, isQuote c = false) :
      IsAssignment value (before ++ '=' :: (after ++ q :: (value ++ [q'])))

/-- One of some words and what is assigned to it. -/
inductive IsArgument (words : List (List Char)) (value : List Char) : List Char → Prop
  | intro {word more : List Char} (hword : word ∈ words) (hmore : IsAssignment value more) :
      IsArgument words value (word ++ more)

theorem not_isBlank_of_isQuote {c : Char} (h : isQuote c = true) : isBlank c = false := by
  simp only [isQuote, Bool.or_eq_true, beq_iff_eq] at h
  rcases h with rfl | rfl <;> decide

theorem not_isQuote_of_isBlank {c : Char} (h : isBlank c = true) : isQuote c = false := by
  by_contra hq
  rw [not_isBlank_of_isQuote (by simpa using hq)] at h
  cases h

theorem assigned?_eq_some_iff :
    assigned? text = some (value, rest) ↔
      ∃ front, IsAssignment value front ∧ text = front ++ rest := by
  constructor
  · intro h
    obtain ⟨before, hbefore, htext⟩ := exists_trimStart text
    unfold assigned? at h
    split at h
    · next more hmore =>
      -- An equals sign comes first, and behind it a literal that is not empty.
      obtain ⟨after, hafter, htrim⟩ := exists_trimStart more
      obtain ⟨hliteral, hne⟩ := Option.filter_eq_some_iff.mp h
      obtain ⟨q, q', hq, hq', hvalue, hquoted⟩ := literal?_eq_some_iff.mp hliteral
      refine ⟨_, .intro hbefore hafter hq hq' (by simpa using hne) hvalue, ?_⟩
      rw [htext, hmore, htrim, hquoted]
      simp
    · cases h
  · rintro ⟨front, @⟨before, after, q, q', hbefore, hafter, hq, hq', hne, hvalue⟩, rfl⟩
    -- The blanks are trimmed away one after the other, and the literal is left.
    have hliteral : literal? (q :: value ++ q' :: rest) = some (value, rest) :=
      literal?_eq_some_iff.mpr ⟨q, q', hq, hq', hvalue, rfl⟩
    have htext : before ++ '=' :: (after ++ q :: (value ++ [q'])) ++ rest =
        before ++ '=' :: (after ++ (q :: value ++ q' :: rest)) := by simp
    rw [htext, assigned?, trimStart_append hbefore, trimStart_cons (by decide)]
    simp only
    rw [trimStart_append hafter, List.cons_append, trimStart_cons (not_isBlank_of_isQuote hq),
      ← List.cons_append, hliteral]
    simpa using hne

theorem nameArgument?_eq_some_iff :
    nameArgument? text = some (value, rest) ↔
      ∃ front, IsArgument ["value".toList, "name".toList] value front ∧ text = front ++ rest := by
  have hwords : ∀ v ∈ ["value".toList, "name".toList], ∀ w ∈ ["value".toList, "name".toList],
      v <+: w → v = w := by decide
  rw [nameArgument?, Option.bind_eq_some_iff]
  simp only [Prod.exists, afterOneOf?_eq_some_iff hwords, assigned?_eq_some_iff]
  constructor
  · rintro ⟨word, here, ⟨hword, rfl⟩, more, hmore, rfl⟩
    exact ⟨_, .intro hword hmore, (List.append_assoc ..).symm⟩
  · rintro ⟨front, @⟨word, more, hword, hmore⟩, rfl⟩
    exact ⟨word, more ++ rest, ⟨hword, List.append_assoc ..⟩, more, hmore, rfl⟩

theorem defaultArgument?_eq_some_iff :
    defaultArgument? text = some (value, rest) ↔
      ∃ front, IsArgument ["defaultValue".toList] value front ∧ text = front ++ rest := by
  rw [defaultArgument?, Option.bind_eq_some_iff]
  simp only [after?_eq_some_iff, assigned?_eq_some_iff]
  constructor
  · rintro ⟨here, rfl, more, hmore, rfl⟩
    exact ⟨_, .intro List.mem_cons_self hmore, (List.append_assoc ..).symm⟩
  · rintro ⟨front, @⟨word, more, hword, hmore⟩, rfl⟩
    obtain rfl := List.mem_singleton.mp hword
    exact ⟨more ++ rest, List.append_assoc .., more, hmore, rfl⟩

/-!
## The order of arguments

An argument ends with its literal. In front of the literal no character of an argument is a quote,
so the literal is found by skipping to the first quote, from wherever in the argument the skipping
begins.
-/

theorem isSuffix_dropWhile {p : Char → Bool} (h : later <:+ text) :
    later.dropWhile p <:+ text.dropWhile p := by
  obtain ⟨front, rfl⟩ := h
  induction front with
  | nil => exact List.suffix_refl _
  | cons c front ih =>
      rw [List.cons_append, List.dropWhile_cons]
      split
      · exact ih
      · exact (List.dropWhile_suffix p).trans (List.suffix_append (c :: front) later)

/-- Of two literals the one that begins later does not end earlier. -/
theorem isSuffix_of_literal? {value' : List Char} (hlater : later <:+ text)
    (h : literal? text = some (value, rest)) (h' : literal? later = some (value', rest')) :
    rest' <:+ rest := by
  obtain ⟨q, q', hq, hq', hvalue, rfl⟩ := literal?_eq_some_iff.mp h
  obtain ⟨r, r', hr, hr', hvalue', rfl⟩ := literal?_eq_some_iff.mp h'
  have hends : q' :: rest <:+ q :: value ++ q' :: rest := List.suffix_append ..
  have hends' : rest' <:+ value' ++ r' :: rest' := (List.suffix_cons ..).trans (List.suffix_append ..)
  -- The later literal begins behind the closing quote of the other one, at it, or in front of it.
  rcases List.suffix_or_suffix_of_suffix hlater hends with hle | hle
  · rcases List.suffix_cons_iff.mp hle with heq | hle
    · rw [← (List.cons_eq_cons.mp heq).2]
      exact hends'
    · exact hends'.trans ((List.suffix_cons ..).trans hle)
  · -- Within the literal there is no quote, so that the two begin at the same place.
    obtain ⟨back, hback⟩ := hle
    rw [← hback] at hlater
    have hsuffix : back <:+ q :: value := ((List.suffix_append_inj_of_length_eq rfl).mp hlater).1
    rcases List.suffix_cons_iff.mp hsuffix with rfl | hsuffix
    · have hsame : literal? (r :: value' ++ r' :: rest') = some (value, rest) := by
        rw [← hback]
        exact h
      rw [h'] at hsame
      cases hsame
      exact List.suffix_refl _
    · cases back with
      | nil =>
          cases hback
          exact hends'
      | cons c back =>
          obtain ⟨rfl, -⟩ := List.cons_eq_cons.mp hback
          rw [hvalue c (hsuffix.subset List.mem_cons_self)] at hr
          cases hr

/-- In front of the literal of an argument there is one of the words, an equals sign and blanks. -/
theorem IsArgument.exists_skipped (h : IsArgument words value front) :
    ∃ word ∈ words, ∃ skipped q q', front = skipped ++ (q :: value ++ [q']) ∧ '=' ∈ skipped ∧
      (∀ c ∈ skipped, c ∈ word ∨ c = '=' ∨ isBlank c = true) ∧ isQuote q = true ∧
      isQuote q' = true ∧ ∀ c ∈ value, isQuote c = false := by
  obtain @⟨word, -, hword, @⟨before, after, q, q', hbefore, hafter, hq, hq', -, hvalue⟩⟩ := h
  refine ⟨word, hword, word ++ before ++ '=' :: after, q, q', by simp, by simp, ?_, hq, hq', hvalue⟩
  intro c hc
  simp only [List.mem_append, List.mem_cons] at hc
  rcases hc with (hc | hc) | hc | hc
  · exact .inl hc
  · exact .inr (.inr (hbefore c hc))
  · exact .inr (.inl hc)
  · exact .inr (.inr (hafter c hc))

/-- The literal of an argument is the first one in the text. -/
theorem IsArgument.literal?_eq (h : IsArgument words value front)
    (hwords : ∀ word ∈ words, ∀ c ∈ word, isQuote c = false) (rest : List Char) :
    literal? ((front ++ rest).dropWhile (!isQuote ·)) = some (value, rest) := by
  obtain ⟨word, hword, skipped, q, q', rfl, -, hskipped, hq, hq', hvalue⟩ := h.exists_skipped
  have hpassed : ∀ c ∈ skipped, (!isQuote c) = true := by
    intro c hc
    rw [Bool.not_eq_true']
    rcases hskipped c hc with hc | rfl | hc
    · exact hwords word hword c hc
    · decide
    · exact not_isQuote_of_isBlank hc
  rw [List.append_assoc, List.dropWhile_append_of_pos hpassed, List.append_assoc, List.cons_append,
    List.dropWhile_cons_of_neg (by simp [hq])]
  exact literal?_eq_some_iff.mpr ⟨q, q', hq, hq', hvalue, rfl⟩

/-- Of two arguments the one that begins later does not end earlier. -/
theorem IsArgument.ordered {front' value' : List Char} (h : IsArgument words value front)
    (h' : IsArgument words value' front')
    (hwords : ∀ word ∈ words, ∀ c ∈ word, isQuote c = false)
    (hlater : front' ++ rest' <:+ front ++ rest) : rest' <:+ rest :=
  isSuffix_of_literal? (isSuffix_dropWhile hlater) (h.literal?_eq hwords rest)
    (h'.literal?_eq hwords rest')

/-!
## Steady matchers

The search for a parameter is made of steady matchers by operations that keep them steady: one
matcher behind another, a search up to a closing parenthesis, and a word in front.
-/

/-- A matcher for arguments with one of some words is steady. -/
theorem steady_of_isArgument {matcher : List Char → Option (List Char × List Char)}
    (h : ∀ {text value rest}, matcher text = some (value, rest) ↔
      ∃ front, IsArgument words value front ∧ text = front ++ rest)
    (hwords : ∀ word ∈ words, ∀ c ∈ word, isQuote c = false) : Steady matcher := by
  apply Steady.of_fronts h
  intro text later rest rest' value value' hlater hmatch hmatch'
  obtain ⟨front, hfront, rfl⟩ := h.mp hmatch
  obtain ⟨front', hfront', rfl⟩ := h.mp hmatch'
  exact hfront.ordered hfront' hwords hlater

theorem steady_nameArgument? : Steady nameArgument? :=
  steady_of_isArgument nameArgument?_eq_some_iff (by simp [isQuote])

theorem steady_defaultArgument? : Steady defaultArgument? :=
  steady_of_isArgument defaultArgument?_eq_some_iff (by simp [isQuote])

theorem beforeClose_eq_firstThrough (matcher : List Char → Option α) (text : List Char) :
    beforeClose matcher text = firstThrough (· != ')') matcher text := by
  induction text with
  | nil => rfl
  | cons c text ih =>
      rw [beforeClose, firstThrough, ih]
      cases matcher (c :: text) with
      | some a => rfl
      | none => by_cases hc : c = ')' <;> simp [hc]

/-- Up to the next closing parenthesis a steady matcher is steady. -/
theorem steady_beforeClose {matcher : List Char → Option (α × List Char)} (h : Steady matcher) :
    Steady (beforeClose matcher) := by
  rw [funext (beforeClose_eq_firstThrough matcher)]
  exact h.first _

theorem steady_defaultAhead? : Steady defaultAhead? := by
  -- Written down so that the second matcher comes behind the first.
  have hdefault : ∀ here, ((defaultArgument? here).bind fun found =>
      (afterFirst? [')'] found.2).map (found.1, ·)) =
      (defaultArgument? here).bind fun found =>
        ((afterFirst? [')'] found.2).map ((), ·)).map fun last => (found.1, last.2) := by
    intro here
    simp only [Option.map_map]
    rfl
  have hsteady := steady_defaultArgument?.followedBy (steady_afterFirst? [')']) fun value _ => value
  rw [← funext hdefault] at hsteady
  exact steady_beforeClose hsteady

/-- The search for parameter annotations is steady. -/
theorem steady_requestParam? : Steady requestParam? := by
  have hsteady := steady_nameArgument?.followedBy steady_defaultAhead? fun name value =>
    ({ name := String.ofList name, defaultValue := String.ofList value } : Parameter)
  exact (steady_beforeClose hsteady).after "@RequestParam(".toList

end

/-!
## Parameters in a window

The parameters of an endpoint are looked for in the first characters below its mapping. Wherever the
text is cut off, be it inside of an annotation or of a literal, what is found are the annotations
that end before the cut, as they are found in the whole text (`annotationsIn_take`). So the
parameters in the window are the first ones of those in everything that follows
(`parametersIn_take_isPrefix`).
-/

open Text

/-- The parameter annotations of a text, with the positions at which they begin and end. -/
def annotationsIn (text : List Char) : List (Occurrence Parameter) :=
  occurrencesFrom requestParam? 0 text

theorem map_value_annotationsIn (text : List Char) :
    (annotationsIn text).map (·.value) = parametersIn text :=
  map_value_occurrencesFrom requestParam? 0 text

/-- In the first characters of a text there are the annotations that end among these. -/
theorem annotationsIn_take (text : List Char) (n : Nat) :
    annotationsIn (text.take n) = (annotationsIn text).takeWhile fun o => o.stop ≤ n :=
  occurrencesFrom_take steady_requestParam? text n

/-- The parameters in the first characters of a text are the first parameters of the text. -/
theorem parametersIn_take (text : List Char) (n : Nat) :
    parametersIn (text.take n) <+: parametersIn text := by
  rw [← map_value_annotationsIn, ← map_value_annotationsIn, annotationsIn_take]
  exact (List.takeWhile_prefix _).map _

/-- The parameters of an endpoint are the first of those that are declared below its mapping. -/
theorem parameters_isPrefix_of_endpointAt? {text : List Char} {i : Nat} {e : Endpoint}
    (h : endpointAt? text i = some e) :
    e.parameters <+: parametersIn (unlines ((lines text).drop (i + 1))) := by
  obtain ⟨_, _, _, _, _, -, -, -, -, rfl⟩ := endpointAt?_eq_some_iff.mp h
  exact parametersIn_take _ parameterReach

/-- Cutting a text off earlier loses the parameters whose annotations end behind the cut, which are
the last ones, and changes no other. So the parameters of each endpoint are the first of those that
are declared anywhere below its mapping. -/
theorem parametersIn_take_isPrefix (text : String) {n m : Nat} (h : n ≤ m) :
    parametersIn (text.toList.take n) <+: parametersIn (text.toList.take m) ∧
      annotationsIn (text.toList.take n) =
        (annotationsIn (text.toList.take m)).takeWhile (fun o => o.stop ≤ n) ∧
      ∀ name c, ofText? name text = some c → ∀ e ∈ c.endpoints,
        ∃ i, endpointAt? text.toList i = some e ∧
          e.parameters <+: parametersIn (unlines ((lines text.toList).drop (i + 1))) := by
  have htake : text.toList.take n = (text.toList.take m).take n := by
    rw [List.take_take, Nat.min_eq_left h]
  refine ⟨?_, ?_, ?_⟩
  · rw [htake]
    exact parametersIn_take _ n
  · rw [htake]
    exact annotationsIn_take _ n
  · intro name c hc e he
    rw [endpoints_ofText? hc] at he
    obtain ⟨i, -, hi⟩ := List.mem_filterMap.mp he
    exact ⟨i, hi, parameters_isPrefix_of_endpointAt? hi⟩

/-- A cut inside of a literal that looks like a name leaves the annotation in front of it. -/
theorem parametersIn_take_inside_literal :
    let text := "@Controller\n@GetMapping(\"/a\")\npublic String f(@RequestParam(name = 'a)', " ++
      "defaultValue = \"1\") String a, @RequestParam(value = 'name=\"b', defaultValue = '2') String b)"
    ∃ c e i, 131 ≤ 155 ∧ ofText? "A" text = some c ∧ e ∈ c.endpoints ∧
      parametersIn (text.toList.take 131) = [{ name := "a)", defaultValue := "1" }] ∧
      parametersIn (text.toList.take 131) <+: parametersIn (text.toList.take 155) ∧
      endpointAt? text.toList i = some e ∧
      e.parameters <+: parametersIn (unlines ((lines text.toList).drop (i + 1))) := by
  intro text
  have hle : 131 ≤ 155 := by decide
  have hmarked : isMarked text.toList = true := by decide +kernel
  obtain ⟨c, hc⟩ := ofText?_of_isMarked "A" hmarked
  have hlength : (ofText? "A" text).map (·.endpoints.length) = some 1 := by decide +kernel
  obtain ⟨e, he⟩ : ∃ e, e ∈ c.endpoints := by
    rw [hc, Option.map_some, Option.some_inj] at hlength
    exact List.exists_mem_of_length_pos (by omega)
  obtain ⟨hwindow, -, hendpoints⟩ := parametersIn_take_isPrefix text hle
  obtain ⟨i, hi, hparameters⟩ := hendpoints "A" c hc e he
  exact ⟨c, e, i, hle, hc, he, by decide +kernel, hwindow, hi, hparameters⟩

end ModuleReadme.Controller
