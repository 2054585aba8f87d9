import ModuleReadme.Proofs.Text.Lines
import ModuleReadme.Proofs.Text.Occurrences
import ModuleReadme.Proofs.Text.Trimming

/-!
# Carriage returns at the end of lines

Lines can be ended by a line feed alone or by a carriage return and a line feed. `crlf` turns the
one into the other. Since texts are cut at line feeds only, the carriage returns stay at the end of
all lines but the last (`lines_crlf`), so that two things are to be known of a function: how it
answers to a line with a carriage return at its end, and how it answers to a text that runs over
several lines. For the latter, words and runs of characters are found in the text with carriage
returns just where they are without (`after?_crlf`, `dropWhile_crlf`, `firstThrough_crlf`).
-/

namespace ModuleReadme.Text

variable {α : Type}

/-!
## Texts with carriage returns

Nothing but line feeds is changed, so `crlf` goes through a text character by character and takes
pieces of a text to pieces.
-/

/-- A text with a carriage return in front of each line feed. -/
def crlf (text : List Char) : List Char :=
  text.flatMap fun c => if c = '\n' then ['\r', '\n'] else [c]

/-- A string with a carriage return in front of each line feed. -/
def withReturns (text : String) : String := String.ofList (crlf text.toList)

@[simp] theorem crlf_nil : crlf [] = [] := rfl

@[simp] theorem crlf_cons_feed (text : List Char) :
    crlf ('\n' :: text) = '\r' :: '\n' :: crlf text := rfl

theorem crlf_cons {c : Char} (h : c ≠ '\n') (text : List Char) :
    crlf (c :: text) = c :: crlf text := by
  simp [crlf, h]

@[simp] theorem crlf_append (text more : List Char) : crlf (text ++ more) = crlf text ++ crlf more :=
  List.flatMap_append

/-- A text without line feeds stays as it is. -/
theorem crlf_eq_self {text : List Char} (h : '\n' ∉ text) : crlf text = text := by
  induction text with
  | nil => rfl
  | cons c text ih =>
      rw [List.mem_cons, not_or] at h
      rw [crlf_cons (Ne.symm h.1), ih h.2]

theorem length_le_length_crlf (text : List Char) : text.length ≤ (crlf text).length := by
  induction text with
  | nil => exact Nat.le_refl _
  | cons c text ih =>
      by_cases hc : c = '\n'
      · rw [hc, crlf_cons_feed]
        simp only [List.length_cons]
        omega
      · rw [crlf_cons hc]
        exact Nat.succ_le_succ ih

@[simp] theorem crlf_eq_nil_iff {text : List Char} : crlf text = [] ↔ text = [] := by
  constructor
  · intro h
    have hle := length_le_length_crlf text
    rw [h] at hle
    exact List.length_eq_zero_iff.mp (Nat.le_zero.mp hle)
  · rintro rfl
    rfl

theorem isSuffix_crlf {text later : List Char} (h : later <:+ text) : crlf later <:+ crlf text := by
  obtain ⟨front, rfl⟩ := h
  exact ⟨crlf front, (crlf_append front later).symm⟩

/-- The first characters of a text with carriage returns come from the first ones of the text. -/
theorem take_crlf (text : List Char) (n : Nat) :
    (crlf text).take n = (crlf (text.take n)).take n := by
  rcases Nat.le_total text.length n with hn | hn
  · rw [List.take_of_length_le hn]
  · have hle : n ≤ (crlf (text.take n)).length := by
      have hlength := length_le_length_crlf (text.take n)
      rwa [List.length_take_of_le hn] at hlength
    rw [← List.take_append_drop n text, crlf_append, List.take_append_of_le_length hle,
      List.take_append_drop]

/-!
## Searches

Words and runs of characters meet a carriage return only together with the line feed behind it.
What passes the one has to pass the other, and what stops at one has to stop at the other; that is
all that is asked of a matcher.
-/

/-! ### Words -/

/-- A word that holds neither a carriage return nor a line feed, and is not empty. -/
def IsWithinLine (word : List Char) : Prop := word ≠ [] ∧ '\r' ∉ word ∧ '\n' ∉ word

instance (word : List Char) : Decidable (IsWithinLine word) :=
  inferInstanceAs (Decidable (word ≠ [] ∧ '\r' ∉ word ∧ '\n' ∉ word))

/-- A matcher that does not match where a line ends. -/
def PassesLineEnds (matcher : List Char → Option α) : Prop :=
  ∀ text, matcher ('\r' :: text) = none ∧ matcher ('\n' :: text) = none

/-- A text that begins with another character than any in a word does not begin with the word. -/
theorem after?_cons_of_not_mem {word : List Char} {c : Char} (hne : word ≠ []) (h : c ∉ word)
    (text : List Char) : after? word (c :: text) = none := by
  obtain ⟨w, word, rfl⟩ := List.exists_cons_of_ne_nil hne
  rw [List.mem_cons, not_or] at h
  rw [after?, if_neg (Ne.symm h.1)]

theorem passesLineEnds_after? {word : List Char} (h : IsWithinLine word) :
    PassesLineEnds (after? word) := by
  intro text
  obtain ⟨hne, hreturn, hfeed⟩ := h
  exact ⟨after?_cons_of_not_mem hne hreturn text, after?_cons_of_not_mem hne hfeed text⟩

theorem passesLineEnds_afterOneOf? {words : List (List Char)} (h : ∀ w ∈ words, IsWithinLine w) :
    PassesLineEnds (afterOneOf? words) := by
  intro text
  rw [afterOneOf?, afterOneOf?, List.findSome?_eq_none_iff, List.findSome?_eq_none_iff]
  constructor
  · intro w hw
    rw [(passesLineEnds_after? (h w hw) text).1, Option.map_none]
  · intro w hw
    rw [(passesLineEnds_after? (h w hw) text).2, Option.map_none]

/-- What goes on behind a match does not match where a line ends either. -/
theorem PassesLineEnds.bind {β : Type} {matcher : List Char → Option α} (h : PassesLineEnds matcher)
    (next : α → Option β) : PassesLineEnds fun text => (matcher text).bind next := by
  intro text
  simp only [(h text).1, (h text).2, Option.bind_none, and_self]

/-- A word within a line is found just where it is without carriage returns. -/
theorem after?_crlf {word : List Char} (h : IsWithinLine word) (text : List Char) :
    after? word (crlf text) = (after? word text).map crlf := by
  obtain ⟨-, hreturn, hfeed⟩ := h
  induction word generalizing text with
  | nil => rfl
  | cons w word ih =>
      rw [List.mem_cons, not_or] at hreturn hfeed
      cases text with
      | nil => rfl
      | cons c text =>
          -- A word within a line fails at the carriage return as it does at the line feed.
          by_cases hc : c = '\n'
          · subst hc
            rw [crlf_cons_feed, after?, after?, if_neg (Ne.symm hreturn.1),
              if_neg (Ne.symm hfeed.1), Option.map_none]
          · rw [crlf_cons hc, after?, after?]
            split
            · exact ih text hreturn.2 hfeed.2
            · rfl

/-- Where words are found in two texts alike, the first of them is. -/
theorem afterOneOf?_congr {words : List (List Char)} {text text' : List Char}
    {f : List Char → List Char} (h : ∀ w ∈ words, after? w text' = (after? w text).map f) :
    afterOneOf? words text' = (afterOneOf? words text).map (Prod.map id f) := by
  induction words with
  | nil => rfl
  | cons w words ih =>
      obtain ⟨hw, hwords⟩ := List.forall_mem_cons.mp h
      have hrest := ih hwords
      unfold afterOneOf? at hrest ⊢
      rw [List.findSome?_cons, List.findSome?_cons, hw, hrest]
      cases after? w text <;> rfl

theorem afterOneOf?_crlf {words : List (List Char)} (h : ∀ w ∈ words, IsWithinLine w)
    (text : List Char) :
    afterOneOf? words (crlf text) = (afterOneOf? words text).map (Prod.map id crlf) :=
  afterOneOf?_congr fun w hw => after?_crlf (h w hw) text

/-! ### Runs of characters -/

theorem dropWhile_crlf {p : Char → Bool} (h : p '\r' = p '\n') (text : List Char) :
    (crlf text).dropWhile p = crlf (text.dropWhile p) := by
  induction text with
  | nil => rfl
  | cons c text ih =>
      by_cases hc : c = '\n'
      · subst hc
        -- The carriage return goes the way of its line feed.
        rw [crlf_cons_feed, List.dropWhile_cons, List.dropWhile_cons, List.dropWhile_cons, h]
        split
        · exact ih
        · rfl
      · rw [crlf_cons hc, List.dropWhile_cons, List.dropWhile_cons]
        split
        · exact ih
        · rw [crlf_cons hc]

theorem takeWhile_crlf {p : Char → Bool} (h : p '\r' = p '\n') (text : List Char) :
    (crlf text).takeWhile p = crlf (text.takeWhile p) := by
  induction text with
  | nil => rfl
  | cons c text ih =>
      by_cases hc : c = '\n'
      · subst hc
        rw [crlf_cons_feed, List.takeWhile_cons, List.takeWhile_cons, List.takeWhile_cons, h]
        split
        · rw [ih, crlf_cons_feed]
        · rfl
      · rw [crlf_cons hc, List.takeWhile_cons, List.takeWhile_cons]
        split
        · rw [ih, crlf_cons hc]
        · rfl

theorem trimStart_crlf (text : List Char) : trimStart (crlf text) = crlf (trimStart text) :=
  dropWhile_crlf (by decide) text

/-! ### The first match and all matches -/

/-- A search that goes on over line ends finds what it finds without carriage returns. -/
theorem firstThrough_crlf {p : Char → Bool} {matcher : List Char → Option α} {f : α → α}
    (hreturn : p '\r' = true) (hfeed : p '\n' = true) (hpasses : PassesLineEnds matcher)
    (h : ∀ text, matcher (crlf text) = (matcher text).map f) (text : List Char) :
    firstThrough p matcher (crlf text) = (firstThrough p matcher text).map f := by
  induction text with
  | nil => exact h []
  | cons c text ih =>
      by_cases hc : c = '\n'
      · subst hc
        -- Both characters of the line end are passed.
        simp only [crlf_cons_feed, firstThrough, hpasses _, hreturn, hfeed, if_true]
        exact ih
      · have hhere := h (c :: text)
        rw [crlf_cons hc] at hhere ⊢
        rw [firstThrough, firstThrough, hhere]
        cases matcher (c :: text) with
        | some a => rfl
        | none =>
            simp only [Option.map_none]
            split
            · exact ih
            · rfl

theorem leftmost_crlf {matcher : List Char → Option α} {f : α → α}
    (hpasses : PassesLineEnds matcher) (h : ∀ text, matcher (crlf text) = (matcher text).map f)
    (text : List Char) : leftmost matcher (crlf text) = (leftmost matcher text).map f := by
  rw [leftmost_eq_firstThrough, leftmost_eq_firstThrough]
  exact firstThrough_crlf rfl rfl hpasses h text

theorem afterFirst?_crlf {word : List Char} (h : IsWithinLine word) (text : List Char) :
    afterFirst? word (crlf text) = (afterFirst? word text).map crlf :=
  leftmost_crlf (passesLineEnds_after? h) (after?_crlf h) text

/-- A text contains the same words with carriage returns as without. -/
theorem contains_crlf {word : List Char} (h : IsWithinLine word) (text : List Char) :
    contains (crlf text) word = contains text word := by
  rw [contains, contains, ← afterFirst?, ← afterFirst?, afterFirst?_crlf h, Option.isSome_map]

/-- All matches are found as without carriage returns. -/
theorem allMatches_crlf {matcher : List Char → Option (α × List Char)} {f : α → α}
    (hsuffix : ∀ {text a rest}, matcher text = some (a, rest) → rest <:+ text)
    (hpasses : PassesLineEnds matcher)
    (h : ∀ text, matcher (crlf text) = (matcher text).map (Prod.map f crlf)) (text : List Char) :
    allMatches matcher (crlf text) = (allMatches matcher text).map f := by
  have hfeed : ∀ {c tail found}, matcher (c :: tail) = some found → c ≠ '\n' := by
    rintro c tail found hmatch rfl
    rw [(hpasses tail).2] at hmatch
    cases hmatch
  fun_induction allMatches matcher text with
  | case1 => rw [crlf_nil, allMatches, List.map_nil]
  | case2 c tail a rest hmatch hle ih =>
      have hc : c ≠ '\n' := hfeed hmatch
      have hhere := h (c :: tail)
      rw [crlf_cons hc, hmatch] at hhere
      have htail : rest <:+ tail :=
        List.suffix_of_suffix_length_le (hsuffix hmatch) (List.suffix_cons c tail) hle
      have hshorter : (crlf rest).length ≤ (crlf tail).length := (isSuffix_crlf htail).length_le
      rw [crlf_cons hc, allMatches]
      simp only [hhere, Option.map_some, Prod.map_apply, hshorter, if_true, ih, List.map_cons]
  | case3 c tail a rest hmatch hle ih =>
      have hc : c ≠ '\n' := hfeed hmatch
      have hhere := h (c :: tail)
      rw [crlf_cons hc, hmatch] at hhere
      -- What is left behind a match that takes nothing is the whole text.
      have hrest : rest = c :: tail := by
        have hlength := (hsuffix hmatch).length_le
        rw [List.length_cons] at hlength
        exact (hsuffix hmatch).eq_of_length (by rw [List.length_cons]; omega)
      have hlonger : ¬ (crlf rest).length ≤ (crlf tail).length := by
        rw [hrest, crlf_cons hc, List.length_cons]
        omega
      rw [crlf_cons hc, allMatches]
      simp only [hhere, Option.map_some, Prod.map_apply, hlonger, if_false, ih]
  | case4 c tail hmatch ih =>
      by_cases hc : c = '\n'
      · -- Two characters are passed here where one is without carriage returns.
        subst hc
        rw [crlf_cons_feed, allMatches]
        simp only [(hpasses _).1]
        rw [allMatches]
        simp only [(hpasses _).2, ih]
      · have hhere := h (c :: tail)
        rw [crlf_cons hc, hmatch] at hhere
        rw [crlf_cons hc, allMatches]
        simp only [hhere, Option.map_none, ih]

/-!
## Lines with carriage returns

The lines of a text with carriage returns are those of the text, all but the last with a carriage
return at the end. What is known of single lines is carried over to all of them by that.
-/

/-- Lines with a carriage return at the end of all but the last. -/
def returned : List Line → List Line
  | [] => []
  | [l] => [l]
  | l :: m :: ls => (l ++ ['\r']) :: returned (m :: ls)

@[simp] theorem length_returned (ls : List Line) : (returned ls).length = ls.length := by
  fun_induction returned ls with
  | case1 => rfl
  | case2 => rfl
  | case3 l m ls ih => rw [List.length_cons, ih]; rfl

theorem returned_ne_nil {ls : List Line} (h : ls ≠ []) : returned ls ≠ [] := by
  rw [← List.length_pos_iff, length_returned]
  exact List.length_pos_iff.mpr h

/-- A line with a carriage return, or the same line if it is the last. -/
theorem getElem?_returned {ls : List Line} {i : Nat} {l : Line} (h : ls[i]? = some l) :
    (returned ls)[i]? = some l ∨ (returned ls)[i]? = some (l ++ ['\r']) := by
  fun_induction returned ls generalizing i with
  | case1 => cases h
  | case2 => exact .inl h
  | case3 k m ls ih =>
      cases i with
      | zero =>
          cases h
          exact .inr rfl
      | succ i => exact ih h

theorem drop_returned (ls : List Line) (n : Nat) :
    (returned ls).drop n = returned (ls.drop n) := by
  fun_induction returned ls generalizing n with
  | case1 => rw [List.drop_nil, returned]
  | case2 l =>
      cases n with
      | zero => rfl
      | succ n => rw [List.drop_succ_cons, List.drop_nil, returned]
  | case3 l m ls ih =>
      cases n with
      | zero => rfl
      | succ n => exact ih n

/-- What does not see the carriage return at the end of a line sees no difference. -/
theorem map_returned {g : Line → α} (h : ∀ l, g (l ++ ['\r']) = g l) (ls : List Line) :
    (returned ls).map g = ls.map g := by
  fun_induction returned ls with
  | case1 => rfl
  | case2 => rfl
  | case3 l m ls ih => rw [List.map_cons, h, ih]; rfl

theorem not_mem_of_mem_returned {ls : List Line} (h : ∀ l ∈ ls, '\n' ∉ l) :
    ∀ l ∈ returned ls, '\n' ∉ l := by
  fun_induction returned ls with
  | case1 => exact h
  | case2 => exact h
  | case3 k m ls ih =>
      obtain ⟨hk, hls⟩ := List.forall_mem_cons.mp h
      refine List.forall_mem_cons.mpr ⟨?_, ih hls⟩
      simpa using hk

theorem crlf_unlines {ls : List Line} (h : ∀ l ∈ ls, '\n' ∉ l) :
    crlf (unlines ls) = unlines (returned ls) := by
  fun_induction returned ls with
  | case1 => rfl
  | case2 l =>
      rw [unlines_singleton, crlf_eq_self (h l List.mem_cons_self)]
  | case3 l m ls ih =>
      obtain ⟨hl, hls⟩ := List.forall_mem_cons.mp h
      rw [unlines_cons l (List.cons_ne_nil m ls),
        unlines_cons (l ++ ['\r']) (returned_ne_nil (List.cons_ne_nil m ls)), crlf_append,
        crlf_cons_feed, crlf_eq_self hl, ih hls, List.append_assoc]
      rfl

/-- The first lines of a text with carriage returns end with one, unless they are all lines. -/
theorem unlines_take_returned (ls : List Line) (n : Nat) :
    unlines ((returned ls).take n) = unlines (returned (ls.take n)) ∨
      unlines ((returned ls).take n) = unlines (returned (ls.take n)) ++ ['\r'] := by
  fun_induction returned ls generalizing n with
  | case1 => simp [returned]
  | case2 l => cases n <;> simp [returned]
  | case3 l m ls ih =>
      match n with
      | 0 => exact .inl rfl
      -- Only one line is left, whose carriage return is left over at the end.
      | 1 => exact .inr (by simp [returned])
      | n + 2 =>
          have hreturned : (returned (m :: ls)).take (n + 1) ≠ [] := by
            simp [returned_ne_nil]
          have htake : returned (m :: ls.take n) ≠ [] := returned_ne_nil (List.cons_ne_nil m _)
          rw [List.take_succ_cons, List.take_succ_cons, List.take_succ_cons,
            unlines_cons _ hreturned, returned, unlines_cons _ htake]
          refine (ih (n + 1)).imp ?_ ?_
          · intro h
            rw [h, List.take_succ_cons]
          · intro h
            simp [h]

/-- A text with carriage returns is cut into the lines of the text, with carriage returns. -/
theorem lines_crlf (text : List Char) : lines (crlf text) = returned (lines text) := by
  have hlines : ∀ l ∈ lines text, '\n' ∉ l := fun l => not_mem_of_mem_lines
  have htext : crlf text = unlines (returned (lines text)) := by
    rw [← crlf_unlines hlines, unlines_lines]
  rw [htext]
  exact lines_unlines (not_mem_of_mem_returned hlines) (returned_ne_nil (List.splitOn_ne_nil _ _))

/-!
## The carriage return at the end of a line

Searches within a line do not see a carriage return at its end, and trimming takes it away.
-/

theorem after?_append_return {word : List Char} (h : '\r' ∉ word) (text : List Char) :
    after? word (text ++ ['\r']) = (after? word text).map (· ++ ['\r']) := by
  induction word generalizing text with
  | nil => rfl
  | cons w word ih =>
      rw [List.mem_cons, not_or] at h
      cases text with
      | nil => simp [after?, Ne.symm h.1]
      | cons c text =>
          rw [List.cons_append, after?, after?]
          split
          · exact ih h.2 text
          · rfl

theorem takeWhile_append_return {p : Char → Bool} (h : p '\r' = false) (text : List Char) :
    (text ++ ['\r']).takeWhile p = text.takeWhile p := by
  induction text with
  | nil => exact List.takeWhile_cons_of_neg (by simp [h])
  | cons c text ih => rw [List.cons_append, List.takeWhile_cons, List.takeWhile_cons, ih]

theorem dropWhile_append_return {p : Char → Bool} (h : p '\r' = false) (text : List Char) :
    (text ++ ['\r']).dropWhile p = text.dropWhile p ++ ['\r'] := by
  induction text with
  | nil => exact List.dropWhile_cons_of_neg (by simp [h])
  | cons c text ih =>
      rw [List.cons_append, List.dropWhile_cons, List.dropWhile_cons]
      split
      · exact ih
      · rfl

/-- What does not see the carriage return at the end of a line finds the same in the line. -/
theorem leftmost_append_return {matcher : List Char → Option α}
    (h : ∀ text, matcher (text ++ ['\r']) = matcher text) (text : List Char) :
    leftmost matcher (text ++ ['\r']) = leftmost matcher text := by
  induction text with
  | nil =>
      -- Behind the carriage return there is one more place where a match could begin.
      have hnil : matcher ['\r'] = matcher [] := h []
      rw [List.nil_append, leftmost, leftmost, hnil]
      cases hend : matcher [] with
      | some a => rfl
      | none => exact hend
  | cons c text ih =>
      have hhere := h (c :: text)
      rw [List.cons_append] at hhere ⊢
      rw [leftmost, leftmost, hhere, ih]

@[simp] theorem trim_append_return (l : Line) : trim (l ++ ['\r']) = trim l := by
  have hstart : trimStart (l ++ ['\r']) = [] ∧ trimStart l = [] ∨
      trimStart (l ++ ['\r']) = trimStart l ++ ['\r'] := by
    simp only [trimStart, List.dropWhile_append]
    split
    · next h => exact .inl ⟨by decide, List.isEmpty_iff.mp h⟩
    · exact .inr rfl
  -- Of a blank line the carriage return goes with the blanks in front, of another one at the end.
  rw [trim, trim]
  rcases hstart with ⟨h, h'⟩ | h
  · rw [h, h']
  · rw [h]
    exact dropEndWhile_append_of_pos (by decide) (trimStart l)

theorem trim_trim (l : Line) : trim (trim l) = trim l := by
  have hstart : trimStart (trim l) = trim l := by
    cases h : trim l with
    | nil => rfl
    | cons c rest =>
        exact List.dropWhile_cons_of_neg (by simp [not_isBlank_head_trim h])
  rw [trim, hstart]
  exact dropEndWhile_eq_self fun c hc => not_of_getLast?_dropEndWhile hc

end ModuleReadme.Text
