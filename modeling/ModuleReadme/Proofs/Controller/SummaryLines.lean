import ModuleReadme.Controller.Survey
import Mathlib.Data.List.Basic
import Mathlib.Data.Nat.SuccPred
import Mathlib.Order.SuccPred.Archimedean

/-!
# Summaries by line numbers

The summary of an endpoint is looked for in the lines above its mapping, given from the mapping
upwards. Here the same is said with line numbers (`IsSummary`): the last line in reach that is
neither blank nor an annotation has to end a comment, the comment reaches up to the last line with
which one begins, and the summary is the first text in between. The search can be done by counting
line numbers down; it then goes through lines in reach only (`search?`), and comes to the same.
-/

namespace ModuleReadme.Controller

open Text

variable {ls : List Line} {i k s t m first last : Nat}

/-!
## Stretches of lines

The lines between two numbers. A stretch is cut at any number between the two.
-/

/-- The lines with numbers from `s` on and below `t`, in reading order. -/
def stretch (ls : List Line) (s t : Nat) : List Line := (ls.take t).drop s

theorem take_append_stretch (ls : List Line) (h : s ≤ t) :
    ls.take s ++ stretch ls s t = ls.take t := by
  rw [stretch]
  conv_rhs => rw [← List.take_append_drop s (ls.take t), List.take_take, Nat.min_eq_left h]

theorem stretch_append (hsm : s ≤ m) (hmt : m ≤ t) (ht : t ≤ ls.length) :
    stretch ls s t = stretch ls s m ++ stretch ls m t := by
  have hle : s ≤ (ls.take m).length := by
    rw [List.length_take_of_le (by omega)]
    exact hsm
  rw [stretch, ← take_append_stretch ls hmt, List.drop_append_of_le_length hle]
  rfl

@[simp] theorem stretch_self (ls : List Line) (s : Nat) : stretch ls s s = [] :=
  List.drop_eq_nil_of_le (List.length_take_le s ls)

theorem stretch_succ {line : Line} (h : ls[k]? = some line) : stretch ls k (k + 1) = [line] := by
  obtain ⟨hk, rfl⟩ := List.getElem?_eq_some_iff.mp h
  rw [stretch, List.drop_take, List.drop_eq_getElem_cons hk, Nat.add_sub_cancel_left]
  rfl

theorem mem_stretch {line : Line} :
    line ∈ stretch ls s t ↔ ∃ k, s ≤ k ∧ k < t ∧ ls[k]? = some line := by
  rw [stretch, List.mem_iff_getElem?]
  simp only [List.getElem?_drop, List.getElem?_take]
  constructor
  · rintro ⟨j, hj⟩
    split at hj
    · next hlt => exact ⟨s + j, by omega, hlt, hj⟩
    · cases hj
  · rintro ⟨k, hsk, hkt, hk⟩
    refine ⟨k - s, ?_⟩
    rw [Nat.add_sub_cancel' hsk, if_pos hkt]
    exact hk

/-!
## The summary by line numbers

The rule names lines as the greatest or the least of a set of numbers, and says nothing of a search.
-/

/-- The number of the topmost line that is looked at above line `i`. -/
def topmost (i : Nat) : Nat := i - summaryReach

theorem topmost_le (i : Nat) : topmost i ≤ i := Nat.sub_le i summaryReach

/-- The summary in the lines above line `i`. -/
def summaryAt (ls : List Line) (i : Nat) : List Char := summaryAbove (ls.take i).reverse

/-- The lines in reach above line `i` that are neither blank nor annotations. -/
def stops (ls : List Line) (i : Nat) : Set Nat :=
  {k | topmost i ≤ k ∧ k < i ∧ ∃ line, ls[k]? = some line ∧ isPassedOver line = false}

/-- The lines in reach above line `i`, through line `last`, with which a comment begins. -/
def beginnings (ls : List Line) (i last : Nat) : Set Nat :=
  {k | topmost i ≤ k ∧ k ≤ last ∧ ∃ line, ls[k]? = some line ∧ beginsComment line = true}

/-- The lines from `first` through `last` with a text that is no tag. -/
def texts (ls : List Line) (first last : Nat) : Set Nat :=
  {k | first ≤ k ∧ k ≤ last ∧ ∃ line, ls[k]? = some line ∧
    commentText (trim line) ≠ [] ∧ (commentText (trim line)).head? ≠ some '@'}

/-- The lines that are read as the comment above line `i`. -/
structure IsSpan (ls : List Line) (i first last : Nat) : Prop where
  /-- Below the comment there are only blank lines and annotations. -/
  isLast : IsGreatest (stops ls i) last
  /-- The last line ends a comment. -/
  isClosed : ∃ line, ls[last]? = some line ∧ endsComment line = true
  /-- The first line is the nearest one that begins a comment, or else the topmost one. -/
  isFirst : IsGreatest (beginnings ls i last) first ∨ beginnings ls i last = ∅ ∧ first = topmost i

/-- The rule for the summary above line `i`. -/
inductive IsSummary (ls : List Line) (i : Nat) : List Char → Prop
  /-- There are only blank lines and annotations. -/
  | nothing (h : stops ls i = ∅) : IsSummary ls i []
  /-- Something else than a comment comes first. -/
  | code {last : Nat} {line : Line} (hlast : IsGreatest (stops ls i) last)
      (hline : ls[last]? = some line) (h : endsComment line = false) : IsSummary ls i []
  /-- There is no text in the comment. -/
  | textless {first last : Nat} (hspan : IsSpan ls i first last) (h : texts ls first last = ∅) :
      IsSummary ls i []
  /-- The first text of the comment is the summary. -/
  | text {first last k : Nat} {line : Line} (hspan : IsSpan ls i first last)
      (hk : IsLeast (texts ls first last) k) (hline : ls[k]? = some line) :
      IsSummary ls i (commentText (trim line))

/-!
## The lines upwards

The search drops lines until one stops it, and takes lines until a comment begins. Cut at the lines
that the rule names, the stretch above the mapping falls into what is dropped and what is taken.
-/

theorem take_reverse_eq (hi : i ≤ ls.length) :
    (ls.take i).reverse.take summaryReach = (stretch ls (topmost i) i).reverse := by
  rw [List.take_reverse, List.length_take_of_le hi]
  rfl

/-- What is below the last line that is not passed over is passed over. -/
theorem isPassedOver_of_isGreatest (h : IsGreatest (stops ls i) last) :
    ∀ line ∈ stretch ls (last + 1) i, isPassedOver line = true := by
  intro line hmem
  obtain ⟨k, hk, hki, hline⟩ := mem_stretch.mp hmem
  by_contra hpassed
  have htop : topmost i ≤ k := h.1.1.trans (by omega)
  have hle : k ≤ last := h.2 ⟨htop, hki, line, hline, by simpa using hpassed⟩
  omega

theorem isPassedOver_of_stops_eq (h : stops ls i = ∅) :
    ∀ line ∈ stretch ls (topmost i) i, isPassedOver line = true := by
  intro line hmem
  obtain ⟨k, hk, hki, hline⟩ := mem_stretch.mp hmem
  by_contra hpassed
  have hmem : k ∈ stops ls i := ⟨hk, hki, line, hline, by simpa using hpassed⟩
  rw [h] at hmem
  exact hmem

/-- Within a span no line but the first begins a comment. -/
theorem IsSpan.beginsComment_eq_false (h : IsSpan ls i first last) :
    ∀ line ∈ stretch ls (first + 1) (last + 1), beginsComment line = false := by
  intro line hmem
  obtain ⟨k, hk, hkt, hline⟩ := mem_stretch.mp hmem
  by_contra hbegins
  have hbegins : beginsComment line = true := by simpa using hbegins
  rcases h.isFirst with hfirst | ⟨hnone, rfl⟩
  · have htop : topmost i ≤ k := hfirst.1.1.trans (by omega)
    have hle : k ≤ first := hfirst.2 ⟨htop, by omega, line, hline, hbegins⟩
    omega
  · have hmem : k ∈ beginnings ls i last := ⟨by omega, by omega, line, hline, hbegins⟩
    rw [hnone] at hmem
    exact hmem

/-- The first line of a span begins a comment or is the topmost one. -/
theorem IsSpan.exists_first (h : IsSpan ls i first last) :
    topmost i ≤ first ∧ first ≤ last ∧
      ∃ line, ls[first]? = some line ∧ (beginsComment line = true ∨ first = topmost i) := by
  rcases h.isFirst with ⟨⟨htop, hle, line, hline, hbegins⟩, -⟩ | ⟨-, rfl⟩
  · exact ⟨htop, hle, line, hline, .inl hbegins⟩
  · obtain ⟨htop, -, _, hlast, -⟩ := h.isLast.1
    have hlt := (List.getElem?_eq_some_iff.mp hlast).1
    exact ⟨le_rfl, htop, _, List.getElem?_eq_getElem (by omega), .inr rfl⟩

/-- Above lines that are passed over the search goes on. -/
theorem dropWhile_stretch (hsm : s ≤ m) (hmt : m ≤ t) (ht : t ≤ ls.length)
    (h : ∀ line ∈ stretch ls m t, isPassedOver line = true) :
    (stretch ls s t).reverse.dropWhile isPassedOver =
      (stretch ls s m).reverse.dropWhile isPassedOver := by
  rw [stretch_append hsm hmt ht, List.reverse_append, List.dropWhile_append_of_pos]
  simpa using h

theorem takeThrough_append {p : Line → Bool} {l l' : List Line} (h : ∀ line ∈ l, p line = false) :
    takeThrough p (l ++ l') = l ++ takeThrough p l' := by
  induction l with
  | nil => rfl
  | cons line l ih =>
      obtain ⟨hline, hl⟩ := List.forall_mem_cons.mp h
      rw [List.cons_append, takeThrough, hline, if_neg Bool.false_ne_true, ih hl, List.cons_append]

theorem commentAbove_of_stops_eq (hi : i ≤ ls.length) (h : stops ls i = ∅) :
    commentAbove (ls.take i).reverse = [] := by
  rw [commentAbove, take_reverse_eq hi, dropWhile_stretch le_rfl (topmost_le i) hi
    (isPassedOver_of_stops_eq h)]
  simp

/-- Which lines are read as the comment depends on the last line that is not passed over. -/
theorem commentAbove_of_isGreatest {line : Line} (hi : i ≤ ls.length)
    (h : IsGreatest (stops ls i) last) (hline : ls[last]? = some line) :
    commentAbove (ls.take i).reverse =
      if endsComment line then
        takeThrough beginsComment (stretch ls (topmost i) (last + 1)).reverse
      else [] := by
  obtain ⟨htop, hlast, line', hline', hstop⟩ := h.1
  obtain rfl : line = line' := Option.some_inj.mp (hline.symm.trans hline')
  have hcons : (stretch ls (topmost i) (last + 1)).reverse =
      line :: (stretch ls (topmost i) last).reverse := by
    rw [stretch_append htop (Nat.le_succ last) (by omega), stretch_succ hline]
    simp
  rw [commentAbove, take_reverse_eq hi, dropWhile_stretch (m := last + 1) (by omega) hlast hi
    (isPassedOver_of_isGreatest h), hcons, List.dropWhile_cons_of_neg (by simp [hstop])]

/-- The lines of a span are read as the comment. -/
theorem IsSpan.commentAbove_eq (h : IsSpan ls i first last) (hi : i ≤ ls.length) :
    commentAbove (ls.take i).reverse = (stretch ls first (last + 1)).reverse := by
  obtain ⟨line, hline, hends⟩ := h.isClosed
  obtain ⟨htop, hle, begin, hbegin, hbegins⟩ := h.exists_first
  have hlast : last < i := h.isLast.1.2.1
  have hbelow : ∀ line ∈ (stretch ls (first + 1) (last + 1)).reverse,
      beginsComment line = false := by
    simpa using h.beginsComment_eq_false
  rw [commentAbove_of_isGreatest hi h.isLast hline, hends, if_pos rfl,
    stretch_append (m := first + 1) (by omega) (by omega) (by omega), List.reverse_append,
    takeThrough_append hbelow, stretch_append (s := first) (m := first + 1) (by omega) (by omega)
      (by omega), stretch_succ hbegin, List.reverse_append]
  -- The first line is the last one that is taken, be it that it begins a comment or is topmost.
  rcases hbegins with hbegins | rfl
  · rw [stretch_append htop (Nat.le_succ first) (by omega), stretch_succ hbegin]
    simp [takeThrough, hbegins]
  · rw [stretch_succ hbegin]
    simp [takeThrough]

/-!
## The first text

The lines of the comment are read upwards and turned round, so the first text in reading order is
found.
-/

theorem summaryText?_eq_some_iff {line : Line} {text : List Char} :
    summaryText? line = some text ↔
      text = commentText (trim line) ∧ text ≠ [] ∧ text.head? ≠ some '@' := by
  unfold summaryText?
  -- The cases are no text, a tag and a summary.
  split
  · next h =>
    constructor
    · intro hnone
      cases hnone
    · rintro ⟨rfl, hne, -⟩
      exact absurd h hne
  · next c rest h =>
    rw [h]
    split
    · next hc =>
      constructor
      · intro hnone
        cases hnone
      · rintro ⟨rfl, -, hhead⟩
        exact absurd (congrArg some hc) hhead
    · next hc =>
      rw [Option.some_inj]
      constructor
      · rintro rfl
        exact ⟨rfl, List.cons_ne_nil c rest, by simpa using hc⟩
      · rintro ⟨rfl, -⟩
        rfl

theorem summaryText?_eq_none_iff {line : Line} :
    summaryText? line = none ↔
      ¬ (commentText (trim line) ≠ [] ∧ (commentText (trim line)).head? ≠ some '@') := by
  rw [Option.eq_none_iff_forall_ne_some]
  constructor
  · intro h hline
    exact h _ (summaryText?_eq_some_iff.mpr ⟨rfl, hline⟩)
  · rintro h text htext
    obtain ⟨rfl, hline⟩ := summaryText?_eq_some_iff.mp htext
    exact h hline

/-- The first line with a text gives the text of a stretch. -/
theorem findSome?_of_isLeast {line : Line} (hlast : last < ls.length)
    (h : IsLeast (texts ls first last) k) (hline : ls[k]? = some line) :
    (stretch ls first (last + 1)).findSome? summaryText? = some (commentText (trim line)) := by
  obtain ⟨⟨hfirst, hle, line', hline', htext⟩, hleast⟩ := h
  obtain rfl : line = line' := Option.some_inj.mp (hline.symm.trans hline')
  rw [stretch_append hfirst (by omega) hlast, stretch_append (m := k + 1) (Nat.le_succ k) (by omega)
    hlast, stretch_succ hline, List.findSome?_append, List.findSome?_eq_none_iff.mpr]
  · rw [Option.none_or, List.singleton_append, List.findSome?_cons,
      summaryText?_eq_some_iff.mpr ⟨rfl, htext⟩]
  · intro line hmem
    obtain ⟨j, hj, hjk, hline⟩ := mem_stretch.mp hmem
    rw [summaryText?_eq_none_iff]
    intro htext
    have hle : k ≤ j := hleast ⟨hj, by omega, line, hline, htext⟩
    omega

theorem findSome?_of_texts_eq (h : texts ls first last = ∅) :
    (stretch ls first (last + 1)).findSome? summaryText? = none := by
  rw [List.findSome?_eq_none_iff]
  intro line hmem
  obtain ⟨k, hk, hkt, hline⟩ := mem_stretch.mp hmem
  rw [summaryText?_eq_none_iff]
  intro htext
  have hmem : k ∈ texts ls first last := ⟨hk, by omega, line, hline, htext⟩
  rw [h] at hmem
  exact hmem

/-!
## The rule and the search

By the rule there is one summary at least, and every summary by the rule is what the search finds.
So the two are the same.
-/

theorem IsSpan.summaryAt_eq (h : IsSpan ls i first last) (hi : i ≤ ls.length) :
    summaryAt ls i = ((stretch ls first (last + 1)).findSome? summaryText?).getD [] := by
  rw [summaryAt, summaryAbove, h.commentAbove_eq hi, List.reverse_reverse]

/-- The rule leaves no choice. -/
theorem IsSummary.eq {summary : List Char} (h : IsSummary ls i summary) (hi : i ≤ ls.length) :
    summary = summaryAt ls i := by
  cases h with
  | nothing h =>
      rw [summaryAt, summaryAbove, commentAbove_of_stops_eq hi h]
      rfl
  | code hlast hline h =>
      rw [summaryAt, summaryAbove, commentAbove_of_isGreatest hi hlast hline, h]
      rfl
  | textless hspan h =>
      rw [hspan.summaryAt_eq hi, findSome?_of_texts_eq h]
      rfl
  | @text first last k line hspan hk hline =>
      have hlast : last < i := hspan.isLast.1.2.1
      rw [hspan.summaryAt_eq hi, findSome?_of_isLeast (by omega) hk hline]
      rfl

theorem exists_isGreatest_stops (h : (stops ls i).Nonempty) :
    ∃ last, IsGreatest (stops ls i) last :=
  BddAbove.exists_isGreatest_of_nonempty ⟨i, fun _ hk => hk.2.1.le⟩ h

theorem exists_first (ls : List Line) (i last : Nat) : ∃ first,
    IsGreatest (beginnings ls i last) first ∨ beginnings ls i last = ∅ ∧ first = topmost i := by
  rcases (beginnings ls i last).eq_empty_or_nonempty with hnone | hsome
  · exact ⟨topmost i, .inr ⟨hnone, rfl⟩⟩
  · obtain ⟨first, hfirst⟩ :=
      BddAbove.exists_isGreatest_of_nonempty ⟨last, fun _ hk => hk.2.1⟩ hsome
    exact ⟨first, .inl hfirst⟩

/-- The rule always gives a summary. -/
theorem exists_isSummary (ls : List Line) (i : Nat) : ∃ summary, IsSummary ls i summary := by
  rcases (stops ls i).eq_empty_or_nonempty with hnone | hsome
  · exact ⟨[], .nothing hnone⟩
  · obtain ⟨last, hlast⟩ := exists_isGreatest_stops hsome
    obtain ⟨-, -, line, hline, -⟩ := hlast.1
    cases hends : endsComment line with
    | false => exact ⟨[], .code hlast hline hends⟩
    | true =>
        obtain ⟨first, hfirst⟩ := exists_first ls i last
        have hspan : IsSpan ls i first last := ⟨hlast, ⟨line, hline, hends⟩, hfirst⟩
        rcases (texts ls first last).eq_empty_or_nonempty with hnone | hsome
        · exact ⟨[], .textless hspan hnone⟩
        · obtain ⟨k, hk⟩ := BddBelow.exists_isLeast_of_nonempty (OrderBot.bddBelow _) hsome
          obtain ⟨-, -, line, hline, -⟩ := hk.1
          exact ⟨_, .text hspan hk hline⟩

/-- What is found above a line is what the rule says. -/
theorem isSummary_summaryAt (hi : i ≤ ls.length) : IsSummary ls i (summaryAt ls i) := by
  obtain ⟨summary, h⟩ := exists_isSummary ls i
  rwa [← h.eq hi]

/-!
## Counting line numbers down

Here the search is a loop that counts down, with a fault for any number that is not that of a line
in reach.
-/

/-- Line `k`, if it is one of the lines from `s` on and below `t`. -/
def lineWithin? (ls : List Line) (s t k : Nat) : Option Line :=
  if s ≤ k ∧ k < t then ls[k]? else none

/-- The number of the line that ends the comment, if there is one. Lines are read one by one from
above line `k` to line `floor`; a line that cannot be read, or a number below zero, is a fault. -/
def countToEnd? (read : Nat → Option Line) (floor : Nat) : Nat → Option (Option Nat)
  | 0 => if floor = 0 then some none else none
  | k + 1 =>
    if k + 1 = floor then some none
    else (read k).bind fun line =>
      if isPassedOver line then countToEnd? read floor k
      else some (if endsComment line then some k else none)

/-- The lines of the comment that ends with line `k`, upwards. Faults are those of `countToEnd?`. -/
def countToBegin? (read : Nat → Option Line) (floor : Nat) : Nat → Option (List Line)
  | 0 => (read 0).bind fun line =>
      if beginsComment line || floor == 0 then some [line] else none
  | k + 1 => (read (k + 1)).bind fun line =>
      if beginsComment line || k + 1 == floor then some [line]
      else (countToBegin? read floor k).map (line :: ·)

/-- The summary above line `i`, found by counting line numbers down. -/
def search? (read : Nat → Option Line) (floor i : Nat) : Option (List Char) :=
  (countToEnd? read floor i).bind fun
    | none => some []
    | some last => (countToBegin? read floor last).map fun comment =>
        (comment.reverse.findSome? summaryText?).getD []

theorem lineWithin?_eq {line : Line} (hs : s ≤ k) (ht : k < t) (hline : ls[k]? = some line) :
    lineWithin? ls s t k = some line := by
  rw [lineWithin?, if_pos ⟨hs, ht⟩, hline]

theorem countToEnd?_floor (read : Nat → Option Line) (floor : Nat) :
    countToEnd? read floor floor = some none := by
  cases floor <;> simp [countToEnd?]

/-- Above the topmost line something else than a passed over line is decisive. -/
theorem countToEnd?_succ {line : Line} (hs : s ≤ k) (hk : k < t) (hline : ls[k]? = some line) :
    countToEnd? (lineWithin? ls s t) s (k + 1) =
      if isPassedOver line then countToEnd? (lineWithin? ls s t) s k
      else some (if endsComment line then some k else none) := by
  rw [countToEnd?, if_neg (by omega), lineWithin?_eq hs hk hline, Option.bind_some]

/-- Lines that are passed over are counted down. -/
theorem countToEnd?_of_passedOver (hs : s ≤ m) (hmk : m ≤ k) (hk : k ≤ t) (ht : t ≤ ls.length)
    (h : ∀ line ∈ stretch ls m k, isPassedOver line = true) :
    countToEnd? (lineWithin? ls s t) s k = countToEnd? (lineWithin? ls s t) s m := by
  induction k, hmk using Nat.le_induction with
  | base => rfl
  | succ k hmk ih =>
      have hline : ls[k]? = some ls[k] := List.getElem?_eq_getElem (by omega)
      rw [countToEnd?_succ (by omega) hk hline, h ls[k] (mem_stretch.mpr ⟨k, hmk, by omega, hline⟩),
        if_pos rfl]
      refine ih (by omega) fun line hmem => h line ?_
      obtain ⟨j, hj, hjk, hline⟩ := mem_stretch.mp hmem
      exact mem_stretch.mpr ⟨j, hj, by omega, hline⟩

/-- The lines below the first one that begins a comment are taken on the way. -/
theorem countToBegin?_of_not_begins (hs : s ≤ m) (hmk : m ≤ k) (hk : k < t) (ht : t ≤ ls.length)
    (h : ∀ line ∈ stretch ls (m + 1) (k + 1), beginsComment line = false) :
    countToBegin? (lineWithin? ls s t) s k =
      (countToBegin? (lineWithin? ls s t) s m).map ((stretch ls (m + 1) (k + 1)).reverse ++ ·) := by
  induction k, hmk using Nat.le_induction with
  | base => simp
  | succ k hmk ih =>
      have hline : ls[k + 1]? = some ls[k + 1] := List.getElem?_eq_getElem (by omega)
      have hbegins := h ls[k + 1] (mem_stretch.mpr ⟨k + 1, by omega, by omega, hline⟩)
      have hfloor : (k + 1 == s) = false := by
        rw [beq_eq_false_iff_ne]
        omega
      -- The line is taken on the way, and the counting goes on above it.
      rw [countToBegin?, lineWithin?_eq (by omega) hk hline, Option.bind_some, hbegins, hfloor, ih,
        stretch_append (m := k + 1) (t := k + 1 + 1) (by omega) (by omega) (by omega),
        stretch_succ hline]
      · simp [Function.comp_def]
      · omega
      · intro line hmem
        obtain ⟨j, hj, hjk, hline⟩ := mem_stretch.mp hmem
        exact h line (mem_stretch.mpr ⟨j, hj, by omega, hline⟩)

/-- At a line that begins a comment, and at the topmost line, the counting ends. -/
theorem countToBegin?_of_begins {line : Line} (hs : s ≤ k) (hk : k < t) (hline : ls[k]? = some line)
    (h : beginsComment line = true ∨ k = s) :
    countToBegin? (lineWithin? ls s t) s k = some [line] := by
  have hstop : (beginsComment line || k == s) = true := by
    rw [Bool.or_eq_true, beq_iff_eq]
    exact h
  cases k with
  | zero =>
      obtain rfl : s = 0 := Nat.le_zero.mp hs
      rw [countToBegin?, lineWithin?_eq hs hk hline, Option.bind_some, hstop, if_pos rfl]
  | succ k => rw [countToBegin?, lineWithin?_eq hs hk hline, Option.bind_some, hstop, if_pos rfl]

theorem countToEnd?_of_isGreatest {line : Line} (hi : i ≤ ls.length)
    (h : IsGreatest (stops ls i) last) (hline : ls[last]? = some line) :
    countToEnd? (lineWithin? ls (topmost i) i) (topmost i) i =
      some (if endsComment line then some last else none) := by
  obtain ⟨htop, hlt, line', hline', hstop⟩ := h.1
  obtain rfl : line = line' := Option.some_inj.mp (hline.symm.trans hline')
  rw [countToEnd?_of_passedOver (m := last + 1) (by omega) hlt le_rfl hi
    (isPassedOver_of_isGreatest h), countToEnd?_succ htop hlt hline, hstop,
    if_neg Bool.false_ne_true]

/-- Counting down from the last line of a span takes the lines of the span. -/
theorem IsSpan.countToBegin?_eq (h : IsSpan ls i first last) (hi : i ≤ ls.length) :
    countToBegin? (lineWithin? ls (topmost i) i) (topmost i) last =
      some (stretch ls first (last + 1)).reverse := by
  obtain ⟨htop, hle, line, hline, hbegins⟩ := h.exists_first
  have hlast : last < i := h.isLast.1.2.1
  rw [countToBegin?_of_not_begins htop hle hlast hi h.beginsComment_eq_false,
    countToBegin?_of_begins htop (by omega) hline hbegins,
    stretch_append (s := first) (m := first + 1) (by omega) (by omega) (by omega),
    stretch_succ hline, List.reverse_append]
  rfl

theorem IsSpan.search?_eq (h : IsSpan ls i first last) (hi : i ≤ ls.length) :
    search? (lineWithin? ls (topmost i) i) (topmost i) i = some (summaryAt ls i) := by
  obtain ⟨line, hline, hends⟩ := h.isClosed
  rw [search?, countToEnd?_of_isGreatest hi h.isLast hline, hends, if_pos rfl, Option.bind_some]
  simp only
  rw [h.countToBegin?_eq hi, Option.map_some, List.reverse_reverse, h.summaryAt_eq hi]

/-- Counting down never asks for a line out of reach, and finds the summary. -/
theorem search?_eq (hi : i ≤ ls.length) :
    search? (lineWithin? ls (topmost i) i) (topmost i) i = some (summaryAt ls i) := by
  obtain ⟨summary, h⟩ := exists_isSummary ls i
  cases h with
  | nothing h =>
      rw [← (IsSummary.nothing h).eq hi, search?, countToEnd?_of_passedOver le_rfl
        (topmost_le i) le_rfl hi (isPassedOver_of_stops_eq h), countToEnd?_floor]
      rfl
  | code hlast hline h =>
      rw [← (IsSummary.code hlast hline h).eq hi, search?, countToEnd?_of_isGreatest hi hlast hline,
        h]
      rfl
  | textless hspan h => exact hspan.search?_eq hi
  | text hspan hk hline => exact hspan.search?_eq hi

/-!
## Counting down with more lines to be read

A search that is at fault nowhere does not notice if it could have read more lines.
-/

section More

variable {read read' : Nat → Option Line} {floor : Nat}
  (hread : ∀ k line, read k = some line → read' k = some line)

include hread

theorem countToEnd?_mono {found : Option Nat} (h : countToEnd? read floor k = some found) :
    countToEnd? read' floor k = some found := by
  induction k with
  | zero => exact h
  | succ k ih =>
      rw [countToEnd?] at h ⊢
      by_cases hfloor : k + 1 = floor
      · rwa [if_pos hfloor] at h ⊢
      · rw [if_neg hfloor] at h ⊢
        obtain ⟨line, hline, h⟩ := Option.bind_eq_some_iff.mp h
        rw [hread k line hline, Option.bind_some]
        by_cases hpassed : isPassedOver line = true
        · rw [if_pos hpassed] at h ⊢
          exact ih h
        · rwa [if_neg hpassed] at h ⊢

theorem countToBegin?_mono {comment : List Line} (h : countToBegin? read floor k = some comment) :
    countToBegin? read' floor k = some comment := by
  induction k generalizing comment with
  | zero =>
      obtain ⟨line, hline, h⟩ := Option.bind_eq_some_iff.mp h
      rwa [countToBegin?, hread 0 line hline]
  | succ k ih =>
      obtain ⟨line, hline, h⟩ := Option.bind_eq_some_iff.mp h
      rw [countToBegin?, hread (k + 1) line hline, Option.bind_some]
      split at h
      · next hbegins => rwa [if_pos hbegins]
      · next hbegins =>
        obtain ⟨above, habove, rfl⟩ := Option.map_eq_some_iff.mp h
        rw [if_neg hbegins, ih habove, Option.map_some]

/-- What is found by counting down is found with more lines to be read, too. -/
theorem search?_mono {summary : List Char} (h : search? read floor i = some summary) :
    search? read' floor i = some summary := by
  obtain ⟨found, hfound, h⟩ := Option.bind_eq_some_iff.mp h
  rw [search?, countToEnd?_mono hread hfound, Option.bind_some]
  cases found with
  | none => exact h
  | some last =>
      obtain ⟨comment, hcomment, rfl⟩ := Option.map_eq_some_iff.mp h
      simp only [countToBegin?_mono hread hcomment, Option.map_some]

end More

/-- Counting down among all lines of a text finds the summary, too. -/
theorem search?_getElem? (hi : i ≤ ls.length) :
    search? (ls[·]?) (topmost i) i = some (summaryAt ls i) := by
  refine search?_mono ?_ (search?_eq hi)
  intro k line hline
  rw [lineWithin?] at hline
  split at hline
  · exact hline
  · cases hline

/-- The summary above a line is the one that the rule names, and no other. Counting line numbers
down from the line, not past the topmost line in reach and with no other lines to be read, finds
it. -/
theorem isSummary_iff_eq (hi : i ≤ ls.length) :
    (∀ summary, IsSummary ls i summary ↔ summary = summaryAt ls i) ∧
      search? (lineWithin? ls (topmost i) i) (topmost i) i = some (summaryAt ls i) := by
  refine ⟨fun summary => ⟨fun h => h.eq hi, ?_⟩, search?_eq hi⟩
  rintro rfl
  exact isSummary_summaryAt hi

/-- A comment that is longer than what is in reach is read from the topmost line on. -/
theorem isSummary_long_comment :
    let ls := ["/** First", "* second", "* third", "*", "*", "*", "*", "*", "*", "*", "*/",
      "@Deprecated", "@GetMapping(\"/a\")"].map String.toList
    12 ≤ ls.length ∧ IsSummary ls 12 "third".toList ∧
      search? (lineWithin? ls (topmost 12) 12) (topmost 12) 12 = some "third".toList := by
  intro ls
  have hi : 12 ≤ ls.length := by decide
  have hthird : "third".toList = summaryAt ls 12 := by decide
  obtain ⟨hrule, hsearch⟩ := isSummary_iff_eq hi
  exact ⟨hi, (hrule _).mpr hthird, hthird ▸ hsearch⟩

end ModuleReadme.Controller
