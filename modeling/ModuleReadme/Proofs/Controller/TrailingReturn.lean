import ModuleReadme.Controller.Survey
import ModuleReadme.Proofs.Text.LineEnding

/-!
# Lines with a carriage return at their end

Nothing that is looked for in a line is affected by a carriage return at its end: class
declarations (`isClassDeclaration_append_return`), mappings (`ofLine?_append_return`) and the
constants for methods (`method_append_return`). Signatures and comments are read from trimmed lines,
so that the lines matter only up to trimming (`handlerBelow?_congr`, `summaryAbove_congr`).
-/

namespace ModuleReadme.Controller

open Text

/-!
## Class declarations

A step that skips blanks may skip the carriage return at the end along with them. So it takes the
same from both lines, or it comes to the end of both.
-/

theorem dropMany_nil (step : List Char → Option (List Char)) : dropMany step [] = [] := by
  rw [dropMany]
  split
  · rw [if_neg (by simp)]
  · rfl

/-- Taking steps off a line with a carriage return comes to the same, for a test that fails at the
end of the text, if each step takes the same from the line with the carriage return, or takes all of
a line of which the test fails anyway. -/
theorem dropMany_append_return {step : List Char → Option (List Char)} {test : List Char → Bool}
    (hstep : ∀ text, step (text ++ ['\r']) = (step text).map (· ++ ['\r']) ∨
      step (text ++ ['\r']) = some [] ∧ (step text = some [] ∨ step text = none ∧ test text = false))
    (htest : ∀ text, test (text ++ ['\r']) = test text) (hnil : test [] = false)
    (text : List Char) :
    test (dropMany step (text ++ ['\r'])) = test (dropMany step text) := by
  -- Where the step takes all of the line with the carriage return, nothing is left to be tested.
  have hall : ∀ text, step (text ++ ['\r']) = some [] → dropMany step (text ++ ['\r']) = [] := by
    intro text h
    rw [dropMany]
    simp only [h, List.length_append, List.length_nil, List.length_singleton, Nat.succ_pos, if_true,
      dropMany_nil]
  -- One case for a step that is taken, one for a step that takes nothing, and one for no step.
  fun_induction dropMany step text with
  | case1 text rest hrest hlt ih =>
      rcases hstep text with h | ⟨h, hnone | ⟨hnone, -⟩⟩
      · rw [hrest, Option.map_some] at h
        rw [dropMany]
        simp only [h, List.length_append, Nat.add_lt_add_iff_right, hlt, if_true]
        exact ih
      · rw [hrest, Option.some_inj] at hnone
        rw [hall text h, hnone, dropMany_nil]
      · rw [hrest] at hnone
        cases hnone
  | case2 text rest hrest hlt =>
      rcases hstep text with h | ⟨h, hnone | ⟨hnone, -⟩⟩
      · rw [hrest, Option.map_some] at h
        rw [dropMany]
        simp only [h, List.length_append, Nat.add_lt_add_iff_right, hlt, if_false]
        exact htest text
      · rw [hrest, Option.some_inj] at hnone
        rw [hnone, List.length_nil, Nat.not_lt, Nat.le_zero, List.length_eq_zero_iff] at hlt
        rw [hall text h, hlt]
      · rw [hrest] at hnone
        cases hnone
  | case3 text hnone =>
      rcases hstep text with h | ⟨h, hnone' | ⟨-, hfail⟩⟩
      · rw [hnone, Option.map_none] at h
        rw [dropMany]
        simp only [h]
        exact htest text
      · rw [hnone] at hnone'
        cases hnone'
      · rw [hall text h, hnil, hfail]

theorem skipBlanks?_append_return (text : List Char) :
    skipBlanks? (text ++ ['\r']) = (skipBlanks? text).map (· ++ ['\r']) ∨
      skipBlanks? (text ++ ['\r']) = some [] ∧ (skipBlanks? text = some [] ∨ text = []) := by
  cases text with
  | nil => exact .inr ⟨by decide, .inr rfl⟩
  | cons c text =>
      simp only [List.cons_append, skipBlanks?]
      by_cases hc : isBlank c = true
      · simp only [hc, if_true, trimStart, List.dropWhile_append, Option.map_some]
        split
        · next h => exact .inr ⟨by decide, .inl (by rw [List.isEmpty_iff.mp h])⟩
        · exact .inl rfl
      · simp [hc]

theorem afterKeyword?_append_return {words : List (List Char)} (h : ∀ w ∈ words, '\r' ∉ w)
    (text : List Char) :
    afterKeyword? words (text ++ ['\r']) = (afterKeyword? words text).map (· ++ ['\r']) ∨
      afterKeyword? words (text ++ ['\r']) = some [] ∧
        (afterKeyword? words text = some [] ∨ afterKeyword? words text = none ∧ text ∈ words) := by
  -- The word itself has no carriage return, so it is found in both texts or in neither.
  have hword : afterOneOf? words (text ++ ['\r']) =
      (afterOneOf? words text).map (Prod.map id (· ++ ['\r'])) :=
    afterOneOf?_congr fun w hw => after?_append_return (h w hw) text
  rw [afterKeyword?, afterKeyword?, hword]
  cases hfound : afterOneOf? words text with
  | none => exact .inl rfl
  | some found =>
      obtain ⟨w, rest⟩ := found
      rcases skipBlanks?_append_return rest with hrest | ⟨hrest, hrest' | rfl⟩
      · exact .inl hrest
      · exact .inr ⟨hrest, .inl hrest'⟩
      · -- The text is one of the words, with no blank behind it.
        obtain ⟨v, hv, hafter⟩ := List.exists_of_findSome?_eq_some hfound
        obtain ⟨rest, hrest', heq⟩ := Option.map_eq_some_iff.mp hafter
        cases heq
        have htext := after?_eq_some_iff.mp hrest'
        rw [List.append_nil] at htext
        exact .inr ⟨hrest, .inr ⟨rfl, htext ▸ hv⟩⟩

theorem startsClass_append_return (text : List Char) :
    startsClass (text ++ ['\r']) = startsClass text := by
  rw [startsClass, startsClass]
  have hclass : ∀ w ∈ ["class".toList], '\r' ∉ w := by decide
  rcases afterKeyword?_append_return hclass text with h | ⟨h, h' | ⟨h', -⟩⟩
  · rw [h]
    cases afterKeyword? ["class".toList] text with
    | none => rfl
    | some rest =>
        cases rest with
        | nil => decide
        | cons c rest => rfl
  · rw [h, h']
  · rw [h, h']

/-- What follows the modifiers of a class is not affected by a carriage return. -/
theorem startsClass_dropMany_append_return (text : List Char) :
    startsClass (dropMany (afterKeyword? classModifiers) (text ++ ['\r'])) =
      startsClass (dropMany (afterKeyword? classModifiers) text) := by
  refine dropMany_append_return (fun text => ?_) startsClass_append_return (by decide) text
  refine (afterKeyword?_append_return (by decide) text).imp_right (And.imp_right ?_)
  refine Or.imp_right (And.imp_right fun hword => ?_)
  have hmodifiers : ∀ w ∈ classModifiers, startsClass w = false := by decide
  exact hmodifiers text hword

theorem dropArguments?_append_return (text : List Char) :
    dropArguments? (text ++ ['\r']) = (dropArguments? text).map (· ++ ['\r']) := by
  cases text with
  | nil => decide
  | cons c text =>
      rw [List.cons_append, dropArguments?, dropArguments?]
      split
      · rw [List.dropWhile_append]
        cases text.dropWhile (· != ')') with
        | nil => decide
        | cons d rest => rfl
      · rfl

theorem afterAnnotation?_append_return (text : List Char) :
    afterAnnotation? (text ++ ['\r']) = (afterAnnotation? text).map (· ++ ['\r']) ∨
      afterAnnotation? (text ++ ['\r']) = some [] ∧ (afterAnnotation? text = some [] ∨
        afterAnnotation? text = none ∧ ∃ rest, text = '@' :: rest) := by
  cases text with
  | nil => exact .inl (by decide)
  | cons c text =>
      have hreturn : (isWord '\r' || '\r' == '.') = false := by decide
      rw [List.cons_append, afterAnnotation?, afterAnnotation?,
        takeWhile_append_return hreturn, dropWhile_append_return hreturn,
        dropArguments?_append_return]
      split
      · next h =>
        cases dropArguments? (text.dropWhile fun d => isWord d || d == '.') with
        | none => exact .inl rfl
        | some rest =>
            -- Behind name and arguments blanks are skipped, with the carriage return if nothing
            -- else is left.
            rcases skipBlanks?_append_return rest with hrest | ⟨hrest, hrest' | rfl⟩
            · exact .inl hrest
            · exact .inr ⟨hrest, .inl hrest'⟩
            · rw [Bool.and_eq_true, decide_eq_true_eq] at h
              exact .inr ⟨hrest, .inr ⟨rfl, text, by rw [h.1]⟩⟩
      · exact .inl rfl

/-- Where an annotation stands, no class is declared. -/
theorem startsClass_dropMany_at (text : List Char) :
    startsClass (dropMany (afterKeyword? classModifiers) ('@' :: text)) = false := by
  have hnone : ∀ words : List (List Char), (∀ w ∈ words, w ≠ [] ∧ '@' ∉ w) →
      afterKeyword? words ('@' :: text) = none := by
    intro words hwords
    rw [afterKeyword?, afterOneOf?, List.findSome?_eq_none_iff.mpr, Option.bind_none]
    intro w hw
    rw [after?_cons_of_not_mem (hwords w hw).1 (hwords w hw).2, Option.map_none]
  rw [dropMany, hnone classModifiers (by decide), startsClass, hnone _ (by decide)]

/-- A line declares a class with a carriage return at its end if it does without. -/
theorem isClassDeclaration_append_return (line : Line) :
    isClassDeclaration (line ++ ['\r']) = isClassDeclaration line := by
  let test := fun text => startsClass (dropMany (afterKeyword? classModifiers) text)
  have htest : test [] = false := by
    simp only [test, dropMany_nil]
    decide
  have htrim : ∀ text, test (dropMany afterAnnotation? (text ++ ['\r'])) =
      test (dropMany afterAnnotation? text) := by
    refine dropMany_append_return (fun text => ?_) startsClass_dropMany_append_return htest
    refine (afterAnnotation?_append_return text).imp_right (And.imp_right ?_)
    refine Or.imp_right (And.imp_right ?_)
    rintro ⟨rest, rfl⟩
    exact startsClass_dropMany_at rest
  rw [isClassDeclaration, isClassDeclaration, trimStart, trimStart, List.dropWhile_append]
  split
  · next h =>
    have hreturn : ['\r'].dropWhile isBlank = [] := by decide
    rw [List.isEmpty_iff.mp h, hreturn]
  · exact htrim _

/-!
## Mappings

What is looked for on a line ends with a quote or a parenthesis, so nothing of it can end with the
carriage return.
-/

/-- A literal is closed in the line, if it is closed at all. -/
theorem literal?_append_return (text : List Char) :
    literal? (text ++ ['\r']) = (literal? text).map (Prod.map id (· ++ ['\r'])) := by
  cases h : literal? text with
  | some found =>
      obtain ⟨lit, rest⟩ := found
      obtain ⟨q, q', hq, hq', hlit, rfl⟩ := literal?_eq_some_iff.mp h
      exact literal?_eq_some_iff.mpr ⟨q, q', hq, hq', hlit, by simp⟩
  | none =>
      rw [Option.map_none, Option.eq_none_iff_forall_ne_some]
      rintro ⟨lit, rest⟩ hreturn
      obtain ⟨q, q', hq, hq', hlit, htext⟩ := literal?_eq_some_iff.mp hreturn
      -- A literal in the longer text that is none in the other one would be closed by the carriage
      -- return.
      rcases List.eq_nil_or_concat rest with rfl | ⟨rest, c, rfl⟩
      · -- The carriage return is no quote that could close a literal.
        obtain ⟨-, hlast⟩ := List.append_inj' htext rfl
        cases hlast
        cases hq'
      · rw [List.concat_eq_append, ← List.cons_append, ← List.append_assoc] at htext
        obtain ⟨rfl, -⟩ := List.append_inj' htext rfl
        have hsome : literal? (q :: lit ++ q' :: rest) = some (lit, rest) :=
          literal?_eq_some_iff.mpr ⟨q, q', hq, hq', hlit, rfl⟩
        rw [h] at hsome
        cases hsome

theorem argumentLiteral?_append_return (arguments : List Char) :
    argumentLiteral? (arguments ++ ['\r']) = argumentLiteral? arguments := by
  rw [argumentLiteral?, argumentLiteral?, List.dropWhile_append]
  split
  · next h =>
    have hreturn : ['\r'].dropWhile (fun c => !(c == ')' || isQuote c)) = [] := by decide
    rw [List.isEmpty_iff.mp h, hreturn]
  · rw [literal?_append_return, Option.map_map]
    rfl

theorem literalOf?_append_return (m : Mapping) (text : List Char) :
    m.literalOf? (text ++ ['\r']) = m.literalOf? text := by
  have hopening : '\r' ∉ m.opening := by cases m <;> decide
  rw [Mapping.literalOf?, Mapping.literalOf?, after?_append_return hopening, Option.bind_map]
  exact Option.bind_congr fun arguments _ => argumentLiteral?_append_return arguments

theorem ofLine?_append_return (line : Line) :
    Mapping.ofLine? (line ++ ['\r']) = Mapping.ofLine? line := by
  apply leftmost_append_return
  intro text
  simp only [Mapping.here?, literalOf?_append_return]

theorem namedMethod?_append_return (text : List Char) :
    namedMethod? (text ++ ['\r']) = namedMethod? text := by
  have hname : ∀ m : HttpMethod, '\r' ∉ m.name.toList := by
    intro m
    cases m <;> decide
  rw [namedMethod?, namedMethod?]
  congr 1
  funext m
  rw [after?_append_return (hname m)]
  cases after? m.name.toList text with
  | none => rfl
  | some rest =>
      cases rest with
      | nil => decide
      | cons c rest => rfl

theorem method_append_return (line : Line) (m : Mapping) :
    m.method (line ++ ['\r']) = m.method line := by
  have hmethod : requestMethod? (line ++ ['\r']) = requestMethod? line := by
    apply leftmost_append_return
    intro text
    rw [after?_append_return (by decide), Option.bind_map]
    exact Option.bind_congr fun rest _ => namedMethod?_append_return rest
  cases m with
  | request => rw [Mapping.method, Mapping.method, hmethod]
  | _ => rfl

/-!
## Trimmed lines

A carriage return is a blank, and trimming takes it off. For what trims its lines first it is
enough that the trimmed lines are the same.
-/

variable {ls ls' : List Line}

/-- The handler below a mapping is found from the trimmed lines. -/
theorem handlerBelow?_congr (h : ls.map trim = ls'.map trim) :
    handlerBelow? ls = handlerBelow? ls' := by
  have htrim : ∀ ks : List Line, handlerBelow? ks =
      ((ks.map trim).take handlerReach).findSome? signatureName? := by
    intro ks
    rw [handlerBelow?, ← List.map_take, List.findSome?_map]
    rfl
  rw [htrim, htrim, h]

theorem takeThrough_map (p : Line → Bool) (f : Line → Line) (ls : List Line) :
    takeThrough p (ls.map f) = (takeThrough (p ∘ f) ls).map f := by
  induction ls with
  | nil => rfl
  | cons line rest ih =>
      rw [List.map_cons, takeThrough, takeThrough, ih]
      simp only [Function.comp_apply]
      split <;> rfl

/-- A comment is found, and its lines are read, from the trimmed lines. -/
theorem commentAbove_map_trim (above : List Line) :
    commentAbove (above.map trim) = (commentAbove above).map trim := by
  have hpassed : isPassedOver ∘ trim = isPassedOver := by
    funext line
    simp only [Function.comp_apply, isPassedOver, trim_trim]
  have hends : ∀ line, endsComment (trim line) = endsComment line := by
    intro line
    simp only [endsComment, trim_trim]
  have hbegins : beginsComment ∘ trim = beginsComment := by
    funext line
    simp only [Function.comp_apply, beginsComment, trim_trim]
  rw [commentAbove, commentAbove, ← List.map_take, List.dropWhile_map, hpassed]
  cases (above.take summaryReach).dropWhile isPassedOver with
  | nil => rfl
  | cons line rest =>
      simp only [List.map_cons, hends]
      split
      · rw [← List.map_cons, takeThrough_map, hbegins]
      · rfl

/-- The summary above a mapping is read from the trimmed lines. -/
theorem summaryAbove_congr (h : ls.map trim = ls'.map trim) :
    summaryAbove ls = summaryAbove ls' := by
  have htext : summaryText? ∘ trim = summaryText? := by
    funext line
    simp only [Function.comp_apply, summaryText?, trim_trim]
  have htrim : ∀ ks : List Line, summaryAbove (ks.map trim) = summaryAbove ks := by
    intro ks
    rw [summaryAbove, commentAbove_map_trim, ← List.map_reverse, List.findSome?_map, htext]
    rfl
  rw [← htrim ls, h, htrim]

end ModuleReadme.Controller
