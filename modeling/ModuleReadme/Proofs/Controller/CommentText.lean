import ModuleReadme.Proofs.Controller.Positions
import ModuleReadme.Proofs.Controller.SummaryLines
import ModuleReadme.Proofs.Text.Lines
import ModuleReadme.Proofs.Text.Trimming

/-!
# Summaries and comments

Above a mapping the end of a comment is looked for at the ends of lines, and its beginning at the
beginnings of lines. So the lines that are read are those of the comment only if it has no code in
front of it on its line, or is opened above all lines in reach (`OpensInFront`). In this case the
summary is text of the comment (`isCommentText_of_endpointAt?`). Otherwise the lines are read
upwards past the place where the comment is opened, and the summary may be code.
-/

namespace ModuleReadme.Controller

open Text

variable {ls : List Line} {line : Line} {i k first last : Nat} {front inside : List Char}

/-!
## Comments in a text

A comment is a stretch of the text and knows nothing of lines. The search knows lines only, so the
text is taken through the end of the last line that is read.
-/

/-- The text through line `k`, without the blanks at its end. -/
def textThrough (ls : List Line) (k : Nat) : List Char := trimEnd (ended (ls.take (k + 1)))

/-- A text ends with a comment that is opened behind `front`, holds `inside` and is closed at the
end of the text. -/
structure EndsWithComment (front inside text : List Char) : Prop where
  text_eq : text = front ++ "/*".toList ++ inside ++ "*/".toList
  /-- The comment is closed nowhere before. -/
  open_inside : ¬ "*/".toList <:+: inside

/-- A comment that is opened behind `front` has no code in front of it on its line, which is not
below line `last`, or it is opened above line `top`. -/
inductive OpensInFront (ls : List Line) (top last : Nat) (front : List Char) : Prop
  | onLine {j : Nat} {line : Line} (hj : j ≤ last) (hline : ls[j]? = some line)
      (hbegins : beginsComment line = true)
      (h : front = ended (ls.take j) ++ line.takeWhile isBlank)
  | above (h : front ++ "/*".toList <+: ended (ls.take top))

/-- The text `summary` on line `k` belongs to the comment that is closed at the end of line `last`.
In front of it on its line there are only `marks`, and what it holds of the comment is not closed
before the end of that line. -/
def IsCommentText (ls : List Line) (k last : Nat) (summary : List Char) : Prop :=
  ∃ front before after marks rest,
    ls[k]? = some (marks ++ summary ++ rest) ∧
    ended (ls.take k) ++ marks = front ++ "/*".toList ++ before ∧
    EndsWithComment front (before ++ summary ++ after) (textThrough ls last)

/-- Where the summary above line `i` is taken from: it is the text of line `k`, and line `last` ends
a comment, below which there are only blank lines and annotations. -/
structure IsTakenFrom (ls : List Line) (i k last : Nat) (summary : List Char) : Prop where
  ordered : k ≤ last ∧ last < i
  reached : i ≤ k + summaryReach
  separated : ∀ m, last < m → m < i → ∀ line, ls[m]? = some line → isPassedOver line = true
  isClosed : ∃ line, ls[last]? = some line ∧ endsComment line = true
  taken : ∃ line, ls[k]? = some line ∧ summary = commentText (trim line)

/-!
## The text of a line

Slashes and stars are taken off a line in front, the closing mark behind, and blanks on both sides.
What is left is in one piece, so the line is put together again from it and what was taken off.
-/

/-- The mark that closes a comment at the end of a line, if there is one. -/
def closingMark (line : Line) : List Char := if endsComment line then "*/".toList else []

/-- The text of a line is what is left when the closing mark is taken off and then the marks in
front. -/
theorem exists_unclosed (line : Line) : ∃ unclosed,
    trim line = unclosed ++ closingMark line ∧
      commentText (trim line) = trim ((unclosed.dropWhile (· == '/')).dropWhile (· == '*')) := by
  by_cases hends : endsComment line = true
  · have hmark : "*/".toList.isSuffixOf (trim line) = true := hends
    obtain ⟨unclosed, htrim⟩ := List.isSuffixOf_iff_suffix.mp hmark
    refine ⟨unclosed, by rw [closingMark, if_pos hends, htrim], ?_⟩
    have hlast : (trim line).dropLast.dropLast = unclosed := by
      rw [← htrim]
      show (unclosed ++ ['*', '/']).dropLast.dropLast = unclosed
      simp
    rw [commentText, hmark, if_pos rfl, hlast]
  · refine ⟨trim line, by rw [closingMark, if_neg hends, List.append_nil], ?_⟩
    rw [commentText, if_neg (show ¬ "*/".toList.isSuffixOf (trim line) = true from hends)]

/-- In front of the text of a line there are marks, among them the one that begins the comment if
the line begins one; behind the text there is the mark that closes the comment if the line ends
one. -/
theorem exists_marks (h : commentText (trim line) ≠ []) : ∃ marks after,
    trimEnd line = marks ++ commentText (trim line) ++ after ++ closingMark line ∧
      (beginsComment line = true → line.takeWhile isBlank ++ "/*".toList <+: marks) := by
  obtain ⟨unclosed, htrim, htext⟩ := exists_unclosed line
  let starred := unclosed.dropWhile (· == '/')
  let bare := starred.dropWhile (· == '*')
  obtain ⟨after, hbare⟩ := takeWhile_append_trim bare
  have hunclosed : unclosed = unclosed.takeWhile (· == '/') ++ (starred.takeWhile (· == '*') ++
      (bare.takeWhile isBlank ++ trim bare ++ after)) := by
    rw [← hbare, List.takeWhile_append_dropWhile, List.takeWhile_append_dropWhile]
  have hne : trim line ≠ [] := by
    intro hnil
    rw [hnil] at h
    exact h (by decide)
  -- In front of the text there are blanks, slashes, stars and blanks again.
  refine ⟨line.takeWhile isBlank ++ (unclosed.takeWhile (· == '/') ++
    (starred.takeWhile (· == '*') ++ bare.takeWhile isBlank)), after, ?_, ?_⟩
  · rw [htext, trimEnd_eq hne, htrim]
    conv_lhs => rw [hunclosed]
    simp only [List.append_assoc]
    rfl
  · intro hbegins
    rw [beginsComment, List.isPrefixOf_iff_prefix, htrim] at hbegins
    obtain ⟨more, hmore⟩ := hbegins
    replace hmore : '/' :: '*' :: more = unclosed ++ closingMark line := hmore
    rw [List.prefix_append_right_inj]
    -- A text is left, so that the mark is not cut short by the one that closes the comment.
    rcases unclosed with _ | ⟨c, _ | ⟨d, unclosed⟩⟩
    · exact absurd htext h
    · obtain ⟨rfl, -⟩ := List.cons_eq_cons.mp hmore
      exact absurd htext h
    · obtain ⟨rfl, hrest⟩ := List.cons_eq_cons.mp hmore
      obtain ⟨rfl, -⟩ := List.cons_eq_cons.mp hrest
      exact ⟨_, rfl⟩

/-!
## Places in the text

Everything is placed in the text by what stands in front of it. To show that one place is above
another is to show that one beginning of the text is a beginning of another.
-/

theorem isPrefix_ended_take (ls : List Line) {j k : Nat} (h : j ≤ k) :
    ended (ls.take j) <+: ended (ls.take k) := by
  rw [← take_append_stretch ls h, ended_append]
  exact List.prefix_append ..

theorem ended_take_succ (hline : ls[k]? = some line) :
    ended (ls.take (k + 1)) = ended (ls.take k) ++ line ++ ['\n'] := by
  rw [List.take_add_one, hline, ended_append, Option.toList_some, ended_cons, ended_nil,
    List.append_assoc]

theorem textThrough_eq (hline : ls[k]? = some line) (hne : trimEnd line ≠ []) :
    textThrough ls k = ended (ls.take k) ++ trimEnd line := by
  have hend : trimEnd (line ++ ['\n']) = trimEnd line :=
    dropEndWhile_append_of_pos (by decide) line
  rw [textThrough, ended_take_succ hline, List.append_assoc, trimEnd_append (hend ▸ hne), hend]

/-- A line that ends a comment ends with the closing mark. -/
theorem exists_of_endsComment (h : endsComment line = true) :
    ∃ front, trimEnd line = front ++ "*/".toList := by
  obtain ⟨unclosed, htrim⟩ := List.isSuffixOf_iff_suffix.mp h
  have hne : trim line ≠ [] := by
    intro hnil
    rw [hnil] at htrim
    exact List.cons_ne_nil _ _ (List.append_eq_nil_iff.mp htrim).2
  exact ⟨line.takeWhile isBlank ++ unclosed, by rw [trimEnd_eq hne, ← htrim, List.append_assoc]⟩

/-- A line that begins a comment holds the opening mark behind its first blanks. -/
theorem opening_prefix_of_beginsComment (h : beginsComment line = true) :
    line.takeWhile isBlank ++ "/*".toList <+: line := by
  obtain ⟨after, hline⟩ := takeWhile_append_trim line
  obtain ⟨more, htrim⟩ := List.isPrefixOf_iff_prefix.mp h
  refine ⟨more ++ after, ?_⟩
  conv_rhs => rw [hline, ← htrim]
  simp only [List.append_assoc]

/-- The text of a line stands in front of the mark that closes the comment. -/
theorem exists_behind {lastLine marks after : List Char} (hle : k ≤ last)
    (hline : ls[k]? = some line) (hlast : ls[last]? = some lastLine)
    (hends : endsComment lastLine = true)
    (hmarks : trimEnd line = marks ++ commentText (trim line) ++ after ++ closingMark line) :
    ∃ behind, textThrough ls last =
      ended (ls.take k) ++ marks ++ commentText (trim line) ++ behind ++ "*/".toList := by
  obtain ⟨x, hx⟩ := exists_of_endsComment hends
  have hne : trimEnd lastLine ≠ [] := by
    rw [hx]
    exact List.append_ne_nil_of_right_ne_nil _ (List.cons_ne_nil _ _)
  rw [textThrough_eq hlast hne]
  -- The closing mark is on the line of the text or further down.
  rcases hle.eq_or_lt with rfl | hlt
  · obtain rfl : line = lastLine := Option.some_inj.mp (hline.symm.trans hlast)
    refine ⟨after, ?_⟩
    rw [hmarks, closingMark, if_pos hends]
    simp only [List.append_assoc]
  · -- The line ends before the last one begins.
    obtain ⟨tail, htail⟩ := isPrefix_dropEndWhile isBlank line
    obtain ⟨between, hbetween⟩ := isPrefix_ended_take ls (show k + 1 ≤ last from hlt)
    refine ⟨after ++ closingMark line ++ tail ++ ['\n'] ++ between ++ x, ?_⟩
    have hwhole : line = marks ++ commentText (trim line) ++ after ++ closingMark line ++ tail := by
      rw [← hmarks]
      exact htail.symm
    rw [← hbetween, ended_take_succ hline, hx]
    conv_lhs => rw [hwhole]
    simp only [List.append_assoc]

/-- A comment with no code in front of it is opened in front of every text in its lines. -/
theorem IsSpan.opening_prefix {marks : List Char} (h : IsSpan ls i first last) (hk : first ≤ k)
    (hline : ls[k]? = some line) (hfront : OpensInFront ls (topmost i) last front)
    (hmarks : beginsComment line = true → line.takeWhile isBlank ++ "/*".toList <+: marks) :
    front ++ "/*".toList <+: ended (ls.take k) ++ marks := by
  obtain ⟨htop, -⟩ := h.exists_first
  cases hfront with
  | above habove =>
      exact (habove.trans (isPrefix_ended_take ls (htop.trans hk))).trans (List.prefix_append ..)
  | @onLine j begin hj hbegin hbegins hfront =>
      -- The line on which the comment begins is not below the first line that is read.
      have hjk : j ≤ k := by
        by_contra hkj
        have hmem : j ∈ beginnings ls i last := ⟨by omega, hj, begin, hbegin, hbegins⟩
        rcases h.isFirst with hfirst | ⟨hnone, -⟩
        · have hle : j ≤ first := hfirst.2 hmem
          omega
        · rw [hnone] at hmem
          exact hmem
      rw [hfront, List.append_assoc]
      rcases hjk.eq_or_lt with rfl | hlt
      · obtain rfl : line = begin := Option.some_inj.mp (hline.symm.trans hbegin)
        exact (List.prefix_append_right_inj _).mpr (hmarks hbegins)
      · have hwithin : ended (ls.take j) ++ (begin.takeWhile isBlank ++ "/*".toList) <+:
            ended (ls.take j) ++ begin :=
          (List.prefix_append_right_inj _).mpr (opening_prefix_of_beginsComment hbegins)
        have hline : ended (ls.take j) ++ begin <+: ended (ls.take (j + 1)) := by
          rw [ended_take_succ hbegin]
          exact List.prefix_append ..
        exact ((hwithin.trans hline).trans (isPrefix_ended_take ls hlt)).trans (List.prefix_append ..)

/-- The first text of a comment with no code in front of it is text of the comment. -/
theorem IsSpan.isCommentText (h : IsSpan ls i first last) (hk : k ∈ texts ls first last)
    (hline : ls[k]? = some line)
    (hcomment : EndsWithComment front inside (textThrough ls last))
    (hfront : OpensInFront ls (topmost i) last front) :
    IsCommentText ls k last (commentText (trim line)) := by
  obtain ⟨hfirst, hle, line', hline', hne, -⟩ := hk
  obtain rfl : line = line' := Option.some_inj.mp (hline.symm.trans hline')
  obtain ⟨lastLine, hlast, hends⟩ := h.isClosed
  obtain ⟨marks, after, htrimmed, hmarks⟩ := exists_marks hne
  obtain ⟨behind, hbehind⟩ := exists_behind hle hline hlast hends htrimmed
  obtain ⟨before, hbefore⟩ := h.opening_prefix hfirst hline hfront hmarks
  -- The comment holds what follows its opening up to the mark at the end.
  have hinside : inside = before ++ commentText (trim line) ++ behind := by
    have hsame := hcomment.text_eq.symm.trans hbehind
    rw [← hbefore, List.append_cancel_right_eq] at hsame
    simpa only [List.append_assoc, List.append_cancel_left_eq] using hsame
  obtain ⟨tail, htail⟩ := isPrefix_dropEndWhile isBlank line
  refine ⟨front, before, behind, marks, after ++ closingMark line ++ tail, ?_, hbefore.symm,
    hinside ▸ hcomment⟩
  rw [hline, Option.some_inj]
  conv_lhs => rw [← htail]
  rw [show dropEndWhile isBlank line = _ from htrimmed]
  simp only [List.append_assoc]

/-!
## The summaries of a controller

The rule for summaries says which lines are read. Together with the places it says where in the
text a summary stands.
-/

theorem isTakenFrom_of_isSpan (h : IsSpan ls i first last) (hk : k ∈ texts ls first last)
    (hline : ls[k]? = some line) : IsTakenFrom ls i k last (commentText (trim line)) := by
  obtain ⟨hfirst, hle, -⟩ := hk
  obtain ⟨htop, -⟩ := h.exists_first
  refine ⟨⟨hle, h.isLast.1.2.1⟩, ?_, ?_, h.isClosed, line, hline, rfl⟩
  · have hreach : i - summaryReach ≤ k := htop.trans hfirst
    omega
  · intro m hlast hmi line hm
    exact isPassedOver_of_isGreatest h.isLast line (mem_stretch.mpr ⟨m, hlast, hmi, hm⟩)

/-- A summary is the text of a line in reach, and only blank lines and annotations stand between its
mapping and the nearest line above, with which a comment ends. If this comment has no code in front
of it, the summary is text of the comment. -/
theorem isCommentText_of_endpointAt? {name text : String} {c : Controller}
    (hc : ofText? name text = some c) :
    c.endpoints = (List.range (lines text.toList).length).filterMap (endpointAt? text.toList) ∧
      ∀ i e, endpointAt? text.toList i = some e → e.summary ≠ "" →
        ∃ k last, IsTakenFrom (lines text.toList) i k last e.summary.toList ∧
          ∀ front inside, EndsWithComment front inside (textThrough (lines text.toList) last) →
            OpensInFront (lines text.toList) (topmost i) last front →
            IsCommentText (lines text.toList) k last e.summary.toList := by
  refine ⟨endpoints_ofText? hc, ?_⟩
  intro i e he hne
  obtain ⟨line, mapping, route, _, _, hline, -, -, -, rfl⟩ := endpointAt?_eq_some_iff.mp he
  have hi : i ≤ (lines text.toList).length := (List.getElem?_eq_some_iff.mp hline).1.le
  have hsummary := isSummary_summaryAt hi
  rw [summaryAt] at hsummary
  simp only [String.toList_ofList]
  generalize summaryAbove ((lines text.toList).take i).reverse = summary at hsummary hne ⊢
  -- A summary that is not empty comes from the last of the four rules.
  cases hsummary with
  | nothing => exact absurd rfl hne
  | code => exact absurd rfl hne
  | textless => exact absurd rfl hne
  | @text first last k line hspan hk hline =>
      exact ⟨k, last, isTakenFrom_of_isSpan hspan hk.1 hline, fun front inside hcomment hfront =>
        hspan.isCommentText hk.1 hline hcomment hfront⟩

/-- Below a comment behind code there is one with nothing in front of it, from which the summary is
taken. -/
theorem isCommentText_below_code :
    let ls := ["@Controller", "class A /* hits */", "  /** @since 2",
      "   * Says hello */", "  @Deprecated", "  @GetMapping(\"/a\")", "  public String f()"].map
        String.toList
    let text := String.ofList (unlines ls)
    ∃ c e k last, ofText? "A" text = some c ∧ endpointAt? text.toList 5 = some e ∧
      e.summary = "Says hello" ∧ IsTakenFrom ls 5 k last e.summary.toList ∧
      IsCommentText ls k last e.summary.toList := by
  intro ls text
  have hlines : lines text.toList = ls := by
    rw [String.toList_ofList]
    exact lines_unlines (by decide) (by decide)
  have hmarked : isMarked text.toList = true := by
    rw [String.toList_ofList]
    decide +kernel
  obtain ⟨c, hc⟩ := ofText?_of_isMarked "A" hmarked
  have hmapping : (mappingAt? text.toList 5).isSome := by
    rw [mappingAt?, headerLines, hlines]
    decide +kernel
  have hsignature : (signatureAt? text.toList 6).isSome := by
    rw [signatureAt?, hlines]
    decide +kernel
  -- The mapping has a handler on the next line.
  obtain ⟨e, he⟩ := Option.isSome_iff_exists.mp <| endpointAt?_isSome_iff.mpr
    ⟨hmapping, exists_isHandlerLine (by omega) (by decide) hsignature⟩
  have hsummary : e.summary = "Says hello" := by
    obtain ⟨_, _, _, _, _, -, -, -, -, rfl⟩ := endpointAt?_eq_some_iff.mp he
    simp only [hlines]
    decide +kernel
  have hne : e.summary ≠ "" := by
    rw [hsummary]
    decide
  obtain ⟨k, last, htaken, hcomment⟩ := (isCommentText_of_endpointAt? hc).2 5 e he hne
  rw [hlines] at htaken hcomment
  -- The comment that ends with line 3 is the nearest one.
  have hlast : last = 3 := by
    have hlt := htaken.ordered.2
    have hle : 3 ≤ last := by
      by_contra hlt
      have hstop := htaken.separated 3 (by omega) (by omega) _ rfl
      exact absurd hstop (by decide +kernel)
    by_contra hne
    obtain rfl : last = 4 := by omega
    obtain ⟨line, hline, hends⟩ := htaken.isClosed
    obtain rfl := Option.some_inj.mp hline
    exact absurd hends (by decide +kernel)
  subst hlast
  refine ⟨c, e, k, 3, hc, he, hsummary, htaken, hcomment
    "@Controller\nclass A /* hits */\n  ".toList "* @since 2\n   * Says hello ".toList
    ⟨by decide +kernel, by decide +kernel⟩ ?_⟩
  exact .onLine (j := 2) (by omega) rfl (by decide +kernel) (by decide +kernel)

/-- Where all the comments stand behind code, the lines are read upwards through the code. -/
example : summaryAbove (["int n; /* hits */", "class A", "@Controller"].map String.toList) =
    "class A".toList := by
  decide

end ModuleReadme.Controller
