import ModuleReadme.Proofs.Controller.Positions
import ModuleReadme.Proofs.Controller.SummaryLines
import ModuleReadme.Proofs.Text.LineEnding

/-!
# Bodies below different headers

The endpoints of a controller are looked for below its class declaration, and what stands above
reaches them through the base path. It also reaches them through their summaries, if the search for
a comment does not come to its end in the body. Two texts with the same body and the same base path
have the same endpoints up to the summaries, and the summaries are the same whatever the headers
exactly if for every endpoint the search ends in the body (`endpoints_eq_iff_isSettled`).
-/

namespace ModuleReadme.Controller

open Text

variable {α β : Type} {body above header header' : List Line} {base : List Char}

/-!
## Bodies and headers

That two texts agree is said for all texts with a given body, since whether the header shows
through is a matter of the body.
-/

/-- A text has a class declaration, and below the first one the lines `body`. -/
def HasBody (text : List Char) (body : List Line) : Prop :=
  ∃ n, (lines text).findIdx? isClassDeclaration = some n ∧ (lines text).drop (n + 1) = body

/-- What holds of any two controllers with the same base path and the lines `body` below their class
declarations. -/
def AgreeOn (body : List Line) (R : Controller → Controller → Prop) : Prop :=
  ∀ nameA nameB A B a b, ofText? nameA A = some a → ofText? nameB B = some b →
    HasBody A.toList body → HasBody B.toList body → a.basePath = b.basePath → R a b

/-- The search for a summary comes to its end in the lines `above`. -/
inductive IsSettled (above : List Line) : Prop
  /-- No other lines are in reach. -/
  | outOfReach (h : summaryReach ≤ above.length)
  /-- Something else than a comment comes first. -/
  | code {line : Line} {rest : List Line} (h : above.dropWhile isPassedOver = line :: rest)
      (hends : endsComment line = false)
  /-- In these lines a comment begins that is not below the first line to be looked at. -/
  | comment {line : Line} {rest : List Line} (h : above.dropWhile isPassedOver = line :: rest)
      (hbegins : ∃ l ∈ line :: rest, beginsComment l = true)

/-- An endpoint without its summary. -/
def withoutSummary (e : Endpoint) : Endpoint := { e with summary := "" }

/-- A site with further lines above it. -/
def Site.under (header : List Line) (site : Site) : Site :=
  { site with above := site.above ++ header }

/-!
## Sites below a header

The sites of a text below its header are those of the body with the header put above each of them.
So all that a header can do is to be read when the lines above a site are.
-/

theorem sitesBelow_append (above header ls : List Line) :
    sitesBelow (above ++ header) ls = (sitesBelow above ls).map (Site.under header) := by
  induction ls generalizing above with
  | nil => rfl
  | cons line rest ih => rw [sitesBelow, sitesBelow, List.map_cons, ← ih, List.cons_append]; rfl

theorem drop_sitesBelow (above ls : List Line) (n : Nat) :
    (sitesBelow above ls).drop n = sitesBelow ((ls.take n).reverse ++ above) (ls.drop n) := by
  induction ls generalizing above n with
  | nil => simp [sitesBelow]
  | cons line rest ih =>
      cases n with
      | zero => rfl
      | succ n => simp [sitesBelow, ih (line :: above) n]

/-- The endpoints of a controller are those of the sites of its body, below its header. -/
theorem endpoints_eq_filterMap_sites {name text : String} {c : Controller} {n : Nat}
    (hc : ofText? name text = some c)
    (hn : (lines text.toList).findIdx? isClassDeclaration = some n) :
    c.endpoints = (sites ((lines text.toList).drop (n + 1))).filterMap fun site =>
      (site.under ((lines text.toList).take (n + 1)).reverse).endpoint?
        (basePathOf (headerOf text.toList)) := by
  have hsites : bodySites text.toList = (sites ((lines text.toList).drop (n + 1))).map
      (Site.under ((lines text.toList).take (n + 1)).reverse) := by
    simp only [bodySites, hn]
    rw [sites, drop_sitesBelow, List.append_nil, sites, ← sitesBelow_append, List.nil_append]
  unfold ofText? survey? at hc
  split at hc
  · cases hc
    show ((bodySites text.toList).filterMap _).filterMap Finding.endpoint? = _
    rw [List.filterMap_filterMap, hsites, List.filterMap_map]
    simp only [endpoint?_finding?]
    rfl
  · cases hc

/-- Controllers with the same body and the same base path have the endpoints of the same sites, each
below its own header. -/
theorem exists_headers {nameA nameB A B : String} {a b : Controller}
    (ha : ofText? nameA A = some a) (hb : ofText? nameB B = some b) (hA : HasBody A.toList body)
    (hB : HasBody B.toList body) (hbase : a.basePath = b.basePath) :
    ∃ header header' base,
      a.endpoints = (sites body).filterMap (fun site => (site.under header).endpoint? base) ∧
      b.endpoints = (sites body).filterMap (fun site => (site.under header').endpoint? base) := by
  obtain ⟨n, hn, rfl⟩ := hA
  obtain ⟨m, hm, hbody⟩ := hB
  -- The header of each text is what stands above its body.
  rw [basePath_ofText? ha, basePath_ofText? hb, String.ofList_inj] at hbase
  have hendpoints := endpoints_eq_filterMap_sites hb hm
  rw [hbody, ← hbase] at hendpoints
  exact ⟨_, _, _, endpoints_eq_filterMap_sites ha hn, hendpoints⟩

theorem isSome_endpoint?_under (header : List Line) (base : List Char) (site : Site) :
    ((site.under header).endpoint? base).isSome = (site.endpoint? []).isSome := by
  rw [Site.endpoint?, Site.endpoint?, Site.under]
  cases Mapping.ofLine? site.line with
  | none => rfl
  | some found => simp

/-- A header shows up in the summary of an endpoint only. -/
theorem withoutSummary_endpoint?_under (header : List Line) (base : List Char) (site : Site) :
    ((site.under header).endpoint? base).map withoutSummary =
      (site.endpoint? base).map withoutSummary := by
  rw [Site.endpoint?, Site.endpoint?, Site.under]
  cases Mapping.ofLine? site.line with
  | none => rfl
  | some found =>
      simp only [Option.bind_some, Option.map_map]
      rfl

/-- Below two headers a site yields the same endpoint if its summary is the same. -/
theorem endpoint?_under_congr {site : Site}
    (h : summaryAbove (site.above ++ header) = summaryAbove (site.above ++ header')) :
    (site.under header).endpoint? base = (site.under header').endpoint? base := by
  simp only [Site.endpoint?, Site.under, h]

/-- If a site yields the same endpoint below two headers, its summary is the same. -/
theorem summaryAbove_eq_of_endpoint?_under {site : Site} (hsome : (site.endpoint? []).isSome)
    (h : (site.under header).endpoint? base = (site.under header').endpoint? base) :
    summaryAbove (site.above ++ header) = summaryAbove (site.above ++ header') := by
  have hsummary := congrArg (Option.map Endpoint.summary) h
  simp only [Site.endpoint?, Site.under] at hsummary hsome
  obtain ⟨found, hfound⟩ := Option.isSome_iff_exists.mp (Option.isSome_of_isSome_bind hsome)
  rw [hfound, Option.bind_some, Option.isSome_map] at hsome
  obtain ⟨handler, hhandler⟩ := Option.isSome_iff_exists.mp hsome
  simpa [hfound, hhandler, String.ofList_inj] using hsummary

/-!
## Settled summaries

The search upwards has three ways to come to its end: there is no more line in reach, a line stops
it that ends no comment, or the beginning of the comment is found.
-/

/-- Below lines that are passed over the search goes on in the header, as far as it is in reach. -/
theorem summaryAbove_append_of_passedOver (hlength : above.length ≤ summaryReach)
    (h : above.dropWhile isPassedOver = []) (header : List Line) :
    summaryAbove (above ++ header) = summaryAbove (header.take (summaryReach - above.length)) := by
  rw [summaryAbove, summaryAbove, commentAbove, commentAbove, List.take_append,
    List.take_of_length_le hlength, List.dropWhile_append, h, List.take_take,
    Nat.min_eq_right (Nat.sub_le ..)]
  rfl

/-- The comment of a class is passed on if the class declaration begins with an annotation. -/
example : summaryAbove (["@RestController class A", "/** The start page */"].map String.toList) =
    "The start page".toList := by
  decide +kernel

/-- A comment that ends in some lines goes on in the header, as far as that is in reach. -/
theorem commentAbove_append {line : Line} {rest : List Line}
    (hlength : above.length ≤ summaryReach)
    (h : above.dropWhile isPassedOver = line :: rest) (header : List Line) :
    commentAbove (above ++ header) = if endsComment line then takeThrough beginsComment
      ((line :: rest) ++ header.take (summaryReach - above.length)) else [] := by
  rw [commentAbove, List.take_append, List.take_of_length_le hlength, List.dropWhile_append, h]
  rfl

theorem takeThrough_append_of_mem {p : Line → Bool} {l : List Line} (h : ∃ line ∈ l, p line = true)
    (l' : List Line) : takeThrough p (l ++ l') = takeThrough p l := by
  induction l with
  | nil => simp at h
  | cons line l ih =>
      rw [List.cons_append, takeThrough, takeThrough]
      by_cases hline : p line = true
      · rw [if_pos hline, if_pos hline]
      · rw [if_neg hline, if_neg hline, ih]
        simpa [hline] using h

theorem summaryAbove_append_of_le (h : summaryReach ≤ above.length) (header : List Line) :
    summaryAbove (above ++ header) = summaryAbove above := by
  rw [summaryAbove, summaryAbove, commentAbove, commentAbove, List.take_append_of_le_length h]

/-- Where the search ends in the lines above, further lines make no difference. -/
theorem IsSettled.summaryAbove_append (h : IsSettled above) (header : List Line) :
    summaryAbove (above ++ header) = summaryAbove above := by
  rcases Nat.le_total summaryReach above.length with hlong | hshort
  · exact summaryAbove_append_of_le hlong header
  · cases h with
    | outOfReach hlong => exact summaryAbove_append_of_le hlong header
    | code hdrop hends =>
        conv_rhs => rw [← List.append_nil above]
        rw [summaryAbove, summaryAbove, commentAbove_append hshort hdrop,
          commentAbove_append hshort hdrop, hends]
        rfl
    | comment hdrop hbegins =>
        conv_rhs => rw [← List.append_nil above]
        rw [summaryAbove, summaryAbove, commentAbove_append hshort hdrop,
          commentAbove_append hshort hdrop, takeThrough_append_of_mem hbegins,
          takeThrough_append_of_mem hbegins]

/-!
## Headers that make a difference

For the other direction two headers are needed that differ in whatever part of them is in reach.
Their last lines do: a class declaration without a comment, and one with a comment at its end.
-/

/-- A marker and below it a class declaration. -/
def headed (declaration : Line) : List Line := ["@Controller".toList, declaration]

/-- A class declaration without a comment. -/
def plain : Line := "class A".toList

/-- A class declaration with a comment at its end. -/
def commented : Line := "class A /* B */".toList

/-- However little of the two headers is in reach, different texts are read in them. -/
theorem headers_in_reach (n : Nat) :
    summaryAbove ((headed plain).reverse.take (n + 1)) ≠
        summaryAbove ((headed commented).reverse.take (n + 1)) ∧
      (takeThrough beginsComment ((headed plain).reverse.take (n + 1))).reverse.findSome?
        summaryText? = some plain ∧
      (takeThrough beginsComment ((headed commented).reverse.take (n + 1))).reverse.findSome?
        summaryText? = some "class A /* B".toList := by
  cases n with
  | zero => decide +kernel
  | succ n =>
      have htake : ∀ declaration,
          (headed declaration).reverse.take (n + 1 + 1) = (headed declaration).reverse :=
        fun _ => List.take_of_length_le (Nat.le_add_left 2 n)
      rw [htake, htake]
      decide +kernel

/-- Where the search does not end in the lines above, the two headers give different summaries. -/
theorem summaryAbove_append_ne (h : ¬ IsSettled above) :
    summaryAbove (above ++ (headed plain).reverse) ≠
      summaryAbove (above ++ (headed commented).reverse) := by
  have hlength : above.length < summaryReach := by
    by_contra hlong
    exact h (.outOfReach (by omega))
  -- Of the headers the class declaration is in reach, and perhaps the line above it.
  obtain ⟨n, hn⟩ : ∃ n, summaryReach - above.length = n + 1 :=
    ⟨summaryReach - above.length - 1, by omega⟩
  obtain ⟨hsummaries, hplain, hcommented⟩ := headers_in_reach n
  cases hdrop : above.dropWhile isPassedOver with
  | nil =>
      rw [summaryAbove_append_of_passedOver hlength.le hdrop,
        summaryAbove_append_of_passedOver hlength.le hdrop, hn]
      exact hsummaries
  | cons line rest =>
      have hends : endsComment line = true := by
        by_contra hends
        exact h (.code hdrop (by simpa using hends))
      have hbegins : ∀ l ∈ line :: rest, beginsComment l = false := by
        intro l hl
        by_contra hbegins
        exact h (.comment hdrop ⟨l, hl, by simpa using hbegins⟩)
      -- The comment is open at the top of the body, and the first text is in the header.
      rw [summaryAbove, summaryAbove, commentAbove_append hlength.le hdrop,
        commentAbove_append hlength.le hdrop, hends, if_pos rfl, if_pos rfl,
        takeThrough_append hbegins, takeThrough_append hbegins, List.reverse_append,
        List.reverse_append, List.findSome?_append, List.findSome?_append, hn, hplain, hcommented,
        Option.some_or, Option.some_or]
      decide

/-- A text with a marker, a class declaration and a body. -/
def textOf (declaration : Line) (body : List Line) : String :=
  String.ofList (unlines (headed declaration ++ body))

theorem leftmost_of_eq_some {matcher : List Char → Option α} {text : List Char} {a : α}
    (h : matcher text = some a) : leftmost matcher text = some a := by
  cases text with
  | nil => exact h
  | cons c text => rw [leftmost, h]

theorem isMarked_textOf (declaration : Line) (body : List Line) :
    isMarked (textOf declaration body).toList = true := by
  have hcontains : Text.contains (textOf declaration body).toList "@Controller".toList = true := by
    rw [textOf, String.toList_ofList, headed, List.cons_append,
      unlines_cons _ (List.append_ne_nil_of_left_ne_nil (List.cons_ne_nil _ _) _), Text.contains,
      leftmost_of_eq_some (after?_append _ _)]
    rfl
  exact List.any_eq_true.mpr ⟨"@Controller".toList, by decide, hcontains⟩

theorem lines_textOf {declaration : Line} (hdeclaration : '\n' ∉ declaration)
    (hbody : ∀ l ∈ body, '\n' ∉ l) :
    lines (textOf declaration body).toList = headed declaration ++ body := by
  rw [textOf, String.toList_ofList]
  refine lines_unlines ?_ (List.cons_ne_nil _ _)
  exact List.forall_mem_cons.mpr ⟨by decide, List.forall_mem_cons.mpr ⟨hdeclaration, hbody⟩⟩

theorem findIdx?_textOf {declaration : Line} (hdeclaration : '\n' ∉ declaration)
    (hclass : isClassDeclaration declaration = true) (hbody : ∀ l ∈ body, '\n' ∉ l) :
    (lines (textOf declaration body).toList).findIdx? isClassDeclaration = some 1 := by
  have hmarker : isClassDeclaration "@Controller".toList = false := by decide +kernel
  rw [lines_textOf hdeclaration hbody, headed, List.cons_append, List.cons_append,
    List.findIdx?_cons, List.findIdx?_cons, hclass, hmarker]
  rfl

/-- Neither of the two headers has a base path. -/
theorem basePathOf_headerOf_textOf (hbody : ∀ l ∈ body, '\n' ∉ l) :
    basePathOf (headerOf (textOf plain body).toList) =
      basePathOf (headerOf (textOf commented body).toList) := by
  have hheaders : basePathOf (unlines (headed plain)) = basePathOf (unlines (headed commented)) := by
    decide +kernel
  have hplain : '\n' ∉ plain := by decide
  have hcommented : '\n' ∉ commented := by decide
  rw [headerOf, headerOf, findIdx?_textOf hplain (by decide +kernel) hbody,
    findIdx?_textOf hcommented (by decide +kernel) hbody]
  simp only [lines_textOf hplain hbody, lines_textOf hcommented hbody]
  exact hheaders

/-- Two functions that answer for the same elements give the same list only if their answers are
the same. -/
theorem eq_of_filterMap_eq {f g : α → Option β} {l : List α}
    (hsome : ∀ x ∈ l, (f x).isSome = (g x).isSome) (h : l.filterMap f = l.filterMap g) :
    ∀ x ∈ l, f x = g x := by
  induction l with
  | nil => simp
  | cons x l ih =>
      obtain ⟨hx, hl⟩ := List.forall_mem_cons.mp hsome
      rw [List.forall_mem_cons]
      rw [List.filterMap_cons, List.filterMap_cons] at h
      cases hf : f x with
      | none =>
          have hg : g x = none := by simpa [hf] using hx.symm
          rw [hf, hg] at h
          exact ⟨hg.symm, ih hl h⟩
      | some b =>
          obtain ⟨b', hg⟩ := Option.isSome_iff_exists.mp (by rw [← hx, hf]; rfl)
          rw [hf, hg] at h
          obtain ⟨hb, htail⟩ := List.cons_eq_cons.mp h
          exact ⟨by rw [hg, hb], ih hl htail⟩

/-!
## The same endpoints whatever the header

A site yields an endpoint below one header exactly if it does below another. So the two lists have
an entry each for the same sites, and are equal only if these entries are.
-/

/-- Controllers with the same body and the same base path have the same endpoints up to the
summaries. -/
theorem agreeOn_withoutSummary (body : List Line) :
    AgreeOn body fun a b => a.endpoints.map withoutSummary = b.endpoints.map withoutSummary := by
  intro nameA nameB A B a b ha hb hA hB hbase
  obtain ⟨header, header', base, hendpointsA, hendpointsB⟩ := exists_headers ha hb hA hB hbase
  rw [hendpointsA, hendpointsB, List.map_filterMap, List.map_filterMap]
  simp only [withoutSummary_endpoint?_under]

/-- If the search for every summary comes to its end in the body, the header shows up in the base
path only. -/
theorem agreeOn_of_isSettled
    (h : ∀ site ∈ sites body, (site.endpoint? []).isSome → IsSettled site.above) :
    AgreeOn body fun a b => a.endpoints = b.endpoints := by
  intro nameA nameB A B a b ha hb hA hB hbase
  obtain ⟨header, header', base, hendpointsA, hendpointsB⟩ := exists_headers ha hb hA hB hbase
  rw [hendpointsA, hendpointsB]
  apply List.filterMap_congr
  intro site hsite
  by_cases hsome : (site.endpoint? []).isSome = true
  · apply endpoint?_under_congr
    rw [(h site hsite hsome).summaryAbove_append, (h site hsite hsome).summaryAbove_append]
  · have hnone : ∀ header base, (site.under header).endpoint? base = none := by
      intro header base
      rw [← Option.not_isSome_iff_eq_none, isSome_endpoint?_under]
      exact hsome
    rw [hnone, hnone]

/-- Below any two headers the same lines lead to the same endpoints, if only the base path is the
same, exactly if the search for every summary comes to its end in these lines. Up to the summaries
the endpoints are always the same. -/
theorem endpoints_eq_iff_isSettled (hbody : ∀ l ∈ body, '\n' ∉ l) :
    (AgreeOn body fun a b => a.endpoints.map withoutSummary = b.endpoints.map withoutSummary) ∧
      ((AgreeOn body fun a b => a.endpoints = b.endpoints) ↔
        ∀ site ∈ sites body, (site.endpoint? []).isSome → IsSettled site.above) := by
  refine ⟨agreeOn_withoutSummary body, ?_, agreeOn_of_isSettled⟩
  intro h site hsite hsome
  by_contra hsettled
  have hplain : '\n' ∉ plain := by decide
  have hcommented : '\n' ∉ commented := by decide
  -- Two texts with this body are made, whose endpoints differ at a site that is not settled.
  have hplainIdx := findIdx?_textOf hplain (by decide +kernel) hbody
  have hcommentedIdx := findIdx?_textOf hcommented (by decide +kernel) hbody
  obtain ⟨a, ha⟩ := ofText?_of_isMarked "A" (isMarked_textOf plain body)
  obtain ⟨b, hb⟩ := ofText?_of_isMarked "A" (isMarked_textOf commented body)
  have hbase := basePathOf_headerOf_textOf hbody
  have hendpoints : a.endpoints = b.endpoints :=
    h _ _ _ _ a b ha hb ⟨1, hplainIdx, by rw [lines_textOf hplain hbody]; rfl⟩
      ⟨1, hcommentedIdx, by rw [lines_textOf hcommented hbody]; rfl⟩
      (by rw [basePath_ofText? ha, basePath_ofText? hb, hbase])
  rw [endpoints_eq_filterMap_sites ha hplainIdx, endpoints_eq_filterMap_sites hb hcommentedIdx,
    hbase, lines_textOf hplain hbody, lines_textOf hcommented hbody] at hendpoints
  have hsame := eq_of_filterMap_eq
    (fun other _ => by rw [isSome_endpoint?_under, isSome_endpoint?_under]) hendpoints site hsite
  exact summaryAbove_append_ne hsettled (summaryAbove_eq_of_endpoint?_under hsome hsame)

/-- The headers agree on a body that begins with a comment, but not on what is below the comment. -/
theorem agreeOn_documented_body :
    let body := ["/** Says hello */", "@GetMapping(\"/a\")", "public String f()"].map String.toList
    (∀ l ∈ body, '\n' ∉ l) ∧ (AgreeOn body fun a b => a.endpoints = b.endpoints) ∧
      ¬ AgreeOn body.tail fun a b => a.endpoints = b.endpoints := by
  intro body
  have hbody : ∀ l ∈ body, '\n' ∉ l := by decide
  refine ⟨hbody, (endpoints_eq_iff_isSettled hbody).2.mpr ?_, ?_⟩
  · intro site hsite hsome
    simp only [body, sites, sitesBelow, List.map_cons, List.map_nil, List.mem_cons,
      List.not_mem_nil, or_false] at hsite
    -- Of the three lines only the second one yields an endpoint.
    rcases hsite with rfl | rfl | rfl
    · exact absurd hsome (by decide +kernel)
    · exact .comment rfl ⟨_, List.mem_cons_self, by decide⟩
    · exact absurd hsome (by decide +kernel)
  · intro hagree
    have htail : ∀ l ∈ body.tail, '\n' ∉ l := fun l hl => hbody l (List.mem_of_mem_tail hl)
    have hsettled := (endpoints_eq_iff_isSettled htail).2.mp hagree
      ⟨[], "@GetMapping(\"/a\")".toList, ["public String f()".toList]⟩ List.mem_cons_self
      (by decide +kernel)
    cases hsettled with
    | outOfReach h => exact absurd h (by decide)
    | code h => cases h
    | comment h => cases h

end ModuleReadme.Controller
