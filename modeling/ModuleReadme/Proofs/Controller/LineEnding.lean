import ModuleReadme.Proofs.Controller.Arguments
import ModuleReadme.Proofs.Controller.Positions
import ModuleReadme.Proofs.Controller.TrailingReturn
import ModuleReadme.Proofs.Readme.Rereading

/-!
# Controllers in texts with carriage returns

A controller is found in a text with carriage returns just as in the text without
(`ofText?_withReturns`). Carriage returns show up only where something runs over several lines: in
the base path, and so in front of the routes, and in the arguments of parameter annotations. Since
they take up room in the window for parameters, the last parameters may be lost.
-/

namespace ModuleReadme.Controller

open Text

variable {α : Type}

/-!
## Arguments over several lines

A carriage return in front of a line feed goes where the line feed goes: into a literal, or with
the blanks that are skipped. So each matcher finds in the text with carriage returns what it finds
in the text, with carriage returns.
-/

theorem literal?_crlf (text : List Char) :
    literal? (crlf text) = (literal? text).map (Prod.map crlf crlf) := by
  cases text with
  | nil => rfl
  | cons c text =>
      by_cases hc : c = '\n'
      · subst hc
        rfl
      · have hquote : (!isQuote '\r') = !isQuote '\n' := by decide
        rw [crlf_cons hc, literal?, literal?, dropWhile_crlf hquote, takeWhile_crlf hquote]
        split
        · cases hclosed : text.dropWhile (!isQuote ·) with
          | nil => rfl
          | cons q rest =>
              -- The quote that closes the literal is no line feed.
              have hq : q ≠ '\n' := by
                rintro rfl
                have hhead := List.head?_dropWhile_not (!isQuote ·) text
                rw [hclosed] at hhead
                cases hhead
              rw [crlf_cons hq]
              rfl
        · rfl

theorem isEmpty_crlf (text : List Char) : (crlf text).isEmpty = text.isEmpty := by
  rw [Bool.eq_iff_iff, List.isEmpty_iff, List.isEmpty_iff, crlf_eq_nil_iff]

theorem assigned?_crlf (text : List Char) :
    assigned? (crlf text) = (assigned? text).map (Prod.map crlf crlf) := by
  rw [assigned?, assigned?, trimStart_crlf]
  cases trimStart text with
  | nil => rfl
  | cons c rest =>
      by_cases hfeed : c = '\n'
      · subst hfeed
        rfl
      · rw [crlf_cons hfeed]
        by_cases hc : c = '='
        · subst hc
          simp only [trimStart_crlf, literal?_crlf, Option.filter_map]
          congr 2
          funext found
          simp only [Function.comp_apply, Prod.map_fst, isEmpty_crlf]
        · simp [hc]

theorem nameArgument?_crlf (text : List Char) :
    nameArgument? (crlf text) = (nameArgument? text).map (Prod.map crlf crlf) := by
  rw [nameArgument?, nameArgument?, afterOneOf?_crlf (by decide), Option.bind_map, Option.map_bind]
  exact Option.bind_congr fun found _ => assigned?_crlf found.2

theorem defaultArgument?_crlf (text : List Char) :
    defaultArgument? (crlf text) = (defaultArgument? text).map (Prod.map crlf crlf) := by
  rw [defaultArgument?, defaultArgument?, after?_crlf (by decide), Option.bind_map, Option.map_bind]
  exact Option.bind_congr fun here _ => assigned?_crlf here

theorem beforeClose_crlf {matcher : List Char → Option α} {f : α → α}
    (hpasses : PassesLineEnds matcher) (h : ∀ text, matcher (crlf text) = (matcher text).map f)
    (text : List Char) : beforeClose matcher (crlf text) = (beforeClose matcher text).map f := by
  rw [beforeClose_eq_firstThrough, beforeClose_eq_firstThrough]
  exact firstThrough_crlf (by decide) (by decide) hpasses h text

theorem defaultAhead?_crlf (text : List Char) :
    defaultAhead? (crlf text) = (defaultAhead? text).map (Prod.map crlf crlf) := by
  have hclose : IsWithinLine [')'] := by decide
  apply beforeClose_crlf
  · exact ((passesLineEnds_after? (by decide)).bind _).bind _
  · intro here
    rw [defaultArgument?_crlf, Option.bind_map, Option.map_bind]
    refine Option.bind_congr fun found _ => ?_
    simp only [Function.comp_apply, Prod.map_snd, Prod.map_fst, afterFirst?_crlf hclose,
      Option.map_map]
    rfl

/-- A parameter with a carriage return in front of each line feed. -/
def parameterWithReturns (p : Parameter) : Parameter where
  name := withReturns p.name
  defaultValue := withReturns p.defaultValue

theorem requestParam?_crlf (text : List Char) :
    requestParam? (crlf text) = (requestParam? text).map (Prod.map parameterWithReturns crlf) := by
  rw [requestParam?, requestParam?, after?_crlf (by decide), Option.bind_map, Option.map_bind]
  refine Option.bind_congr fun arguments _ => ?_
  apply beforeClose_crlf
  · exact ((passesLineEnds_afterOneOf? (by decide)).bind _).bind _
  · intro here
    rw [nameArgument?_crlf, Option.bind_map, Option.map_bind]
    refine Option.bind_congr fun found _ => ?_
    simp only [Function.comp_apply, Prod.map_snd, Prod.map_fst, defaultAhead?_crlf, Option.map_map]
    congr 1
    funext ahead
    simp [parameterWithReturns, withReturns]

/-- A text declares the same parameters with carriage returns as without. -/
theorem parametersIn_crlf (text : List Char) :
    parametersIn (crlf text) = (parametersIn text).map parameterWithReturns :=
  allMatches_crlf steady_requestParam?.suffix ((passesLineEnds_after? (by decide)).bind _)
    requestParam?_crlf text

/-- In the window for parameters the first ones are found, with carriage returns. -/
theorem parametersBelow_returned {below : List Line} (h : ∀ l ∈ below, '\n' ∉ l) :
    parametersBelow (returned below) <+: (parametersBelow below).map parameterWithReturns := by
  rw [parametersBelow, parametersBelow, ← crlf_unlines h, take_crlf, ← parametersIn_crlf]
  exact parametersIn_take _ parameterReach

/-!
## Routes

A route is found on one line and so has no line feeds. The path has those of the base path.
-/

theorem argumentLiteral?_crlf (arguments : List Char) :
    argumentLiteral? (crlf arguments) = (argumentLiteral? arguments).map crlf := by
  rw [argumentLiteral?, argumentLiteral?, dropWhile_crlf (by decide), literal?_crlf, Option.map_map,
    Option.map_map]
  rfl

theorem isWithinLine_opening (m : Mapping) : IsWithinLine m.opening := by
  cases m <;> decide

theorem literalOf?_crlf (m : Mapping) (text : List Char) :
    m.literalOf? (crlf text) = (m.literalOf? text).map crlf := by
  rw [Mapping.literalOf?, Mapping.literalOf?, after?_crlf (isWithinLine_opening m), Option.bind_map,
    Option.map_bind]
  exact Option.bind_congr fun arguments _ => argumentLiteral?_crlf arguments

theorem passesLineEnds_literalOf? (m : Mapping) : PassesLineEnds m.literalOf? :=
  (passesLineEnds_after? (isWithinLine_opening m)).bind _

/-- The base path in a header with carriage returns. -/
theorem basePathOf_crlf (header : List Char) : basePathOf (crlf header) = crlf (basePathOf header) := by
  rw [basePathOf, basePathOf, leftmost_crlf (passesLineEnds_literalOf? _) (literalOf?_crlf _)]
  cases leftmost Mapping.request.literalOf? header <;> rfl

theorem basePathOf_append_return (header : List Char) :
    basePathOf (header ++ ['\r']) = basePathOf header := by
  rw [basePathOf, basePathOf, leftmost_append_return (literalOf?_append_return _)]

/-- The route on a line is within the line. -/
theorem crlf_route {line route : List Char} {m : Mapping} (hline : '\n' ∉ line)
    (h : Mapping.ofLine? line = some (m, route)) : crlf route = route := by
  have hcrlf : Mapping.ofLine? (crlf line) = (Mapping.ofLine? line).map (Prod.map id crlf) := by
    apply leftmost_crlf
    · intro text
      rw [Mapping.here?, Mapping.here?, List.findSome?_eq_none_iff, List.findSome?_eq_none_iff]
      simp only [(passesLineEnds_literalOf? _ text).1, (passesLineEnds_literalOf? _ text).2]
      simp
    · intro text
      rw [Mapping.here?, Mapping.here?]
      induction Mapping.all with
      | nil => rfl
      | cons m rest ih =>
          have hempty : (fun lit : List Char => !lit.isEmpty) ∘ crlf = fun lit => !lit.isEmpty := by
            funext lit
            rw [Function.comp_apply, isEmpty_crlf]
          rw [List.findSome?_cons, List.findSome?_cons, ih, literalOf?_crlf, Option.filter_map, hempty]
          cases (m.literalOf? text).filter (!·.isEmpty) <;> rfl
  -- The line is the same with carriage returns, and so is the route that is found on it.
  rw [crlf_eq_self hline, h, Option.map_some, Option.some_inj] at hcrlf
  exact (Prod.mk.inj hcrlf).2.symm

theorem joinRoute_crlf (base route : List Char) :
    joinRoute (crlf base) (crlf route) = crlf (joinRoute base route) := by
  rw [joinRoute, joinRoute, ← crlf_append]
  cases base ++ route with
  | nil => rfl
  | cons c path =>
      by_cases hfeed : c = '\n'
      · subst hfeed
        rfl
      · rw [crlf_cons hfeed]
        by_cases hslash : c = '/'
        · subst hslash
          rfl
        · simp [hslash, crlf_cons hfeed, crlf_cons (show '/' ≠ '\n' by decide)]

/-!
## Header and body

Header and body are told apart by lines, and a line declares a class with a carriage return if it
does without. The carriage return behind the declaration goes to the header.
-/

theorem isMarked_crlf (text : List Char) : isMarked (crlf text) = isMarked text := by
  have hmarkers : ∀ marker ∈ markers, IsWithinLine marker := by decide
  rw [isMarked, isMarked, Bool.eq_iff_iff, List.any_eq_true, List.any_eq_true]
  refine exists_congr fun marker => and_congr_right fun hmarker => ?_
  rw [contains_crlf (hmarkers marker hmarker)]

theorem findIdx?_isClassDeclaration_returned (ls : List Line) :
    (returned ls).findIdx? isClassDeclaration = ls.findIdx? isClassDeclaration := by
  have hmap : ∀ ks : List Line,
      ks.findIdx? isClassDeclaration = (ks.map isClassDeclaration).findIdx? id := by
    intro ks
    rw [List.findIdx?_map]
    rfl
  rw [hmap, hmap, map_returned isClassDeclaration_append_return]

theorem headerLines_crlf (text : List Char) : headerLines (crlf text) = headerLines text := by
  rw [headerLines, headerLines, lines_crlf, findIdx?_isClassDeclaration_returned]

/-- The header of a text with carriage returns may end with one. -/
theorem headerOf_crlf (text : List Char) :
    headerOf (crlf text) = crlf (headerOf text) ∨
      headerOf (crlf text) = crlf (headerOf text) ++ ['\r'] := by
  rw [headerOf, headerOf, lines_crlf, findIdx?_isClassDeclaration_returned]
  cases (lines text).findIdx? isClassDeclaration with
  | none => exact .inl rfl
  | some i =>
      have hlines : ∀ l ∈ (lines text).take (i + 1), '\n' ∉ l := fun l hl =>
        not_mem_of_mem_lines (List.mem_of_mem_take hl)
      simp only [crlf_unlines hlines]
      exact unlines_take_returned (lines text) (i + 1)

theorem basePathOf_headerOf_crlf (text : List Char) :
    basePathOf (headerOf (crlf text)) = crlf (basePathOf (headerOf text)) := by
  rcases headerOf_crlf text with h | h
  · rw [h, basePathOf_crlf]
  · rw [h, basePathOf_append_return, basePathOf_crlf]

/-!
## Endpoints

A site of the text with carriage returns is related to the one of the text, part by part. That the
endpoints are related then is a matter of one site.
-/

/-- An endpoint of a text and the endpoint in its place in the text with carriage returns. -/
structure SameEndpoint (e e' : Endpoint) : Prop where
  handler : e'.handler = e.handler
  method : e'.method = e.method
  summary : e'.summary = e.summary
  path : e'.path = withReturns e.path
  /-- The window for parameters holds less of the text. -/
  parameters : e'.parameters <+: e.parameters.map parameterWithReturns

/-- A controller of a text and the controller of the text with carriage returns. -/
structure SameController (c c' : Controller) : Prop where
  name : c'.name = c.name
  basePath : c'.basePath = withReturns c.basePath
  endpoints : List.Forall₂ SameEndpoint c.endpoints c'.endpoints
  /-- Paths are the same where the base path is on one line. -/
  paths : '\n' ∉ c.basePath.toList → c'.endpoints.map (·.path) = c.endpoints.map (·.path)

variable {site site' : Site}

/-- Two sites, of which the second one is the first one with carriage returns. -/
structure Site.IsReturned (site site' : Site) : Prop where
  line : site'.line = site.line ∨ site'.line = site.line ++ ['\r']
  above : site'.above.map trim = site.above.map trim
  below : site'.below = returned site.below
  /-- The sites are those of lines. -/
  oneLine : '\n' ∉ site.line
  linesBelow : ∀ l ∈ site.below, '\n' ∉ l

/-- The sites of a text with carriage returns are those of the text with carriage returns. -/
theorem getElem?_sites_crlf (text : List Char) (i : Nat) :
    Option.Rel Site.IsReturned (sites (lines text))[i]? (sites (lines (crlf text)))[i]? := by
  rw [lines_crlf, getElem?_sites, getElem?_sites]
  cases hline : (lines text)[i]? with
  | none =>
      rw [List.getElem?_eq_none_iff] at hline
      rw [List.getElem?_eq_none (by rwa [length_returned])]
      exact .none
  | some line =>
      -- The lines above differ in carriage returns, which trimming takes off.
      have htrim : ((returned (lines text)).take i).reverse.map trim =
          ((lines text).take i).reverse.map trim := by
        rw [List.map_reverse, List.map_take, map_returned trim_append_return, ← List.map_take,
          List.map_reverse]
      have hsite : ∀ line', line' = line ∨ line' = line ++ ['\r'] → Site.IsReturned
          ⟨((lines text).take i).reverse, line, (lines text).drop (i + 1)⟩
          ⟨((returned (lines text)).take i).reverse, line', (returned (lines text)).drop (i + 1)⟩ := by
        intro line' hline'
        constructor
        · exact hline'
        · exact htrim
        · exact drop_returned (lines text) (i + 1)
        · exact not_mem_of_mem_lines (List.mem_of_getElem? hline)
        · exact fun l hl => not_mem_of_mem_lines (List.mem_of_mem_drop hl)
      -- The last line of a text has no line feed behind it, and so gets no carriage return.
      rcases getElem?_returned hline with h | h
      · rw [h]
        exact .some (hsite line (.inl rfl))
      · rw [h]
        exact .some (hsite (line ++ ['\r']) (.inr rfl))

theorem Site.IsReturned.ofLine?_eq (h : site.IsReturned site') :
    Mapping.ofLine? site'.line = Mapping.ofLine? site.line := by
  rcases h.line with heq | heq
  · rw [heq]
  · rw [heq, ofLine?_append_return]

theorem Site.IsReturned.method_eq (h : site.IsReturned site') (m : Mapping) :
    m.method site'.line = m.method site.line := by
  rcases h.line with heq | heq
  · rw [heq]
  · rw [heq, method_append_return]

theorem Site.IsReturned.handlerBelow?_eq (h : site.IsReturned site') :
    handlerBelow? site'.below = handlerBelow? site.below := by
  apply handlerBelow?_congr
  rw [h.below, map_returned trim_append_return]

/-- A site with carriage returns yields the same endpoint. -/
theorem Site.IsReturned.endpoint? (h : site.IsReturned site') (base : List Char) :
    Option.Rel SameEndpoint (site.endpoint? base) (site'.endpoint? (crlf base)) := by
  rw [Site.endpoint?, Site.endpoint?, h.ofLine?_eq, h.handlerBelow?_eq]
  cases hfound : Mapping.ofLine? site.line with
  | none => exact .none
  | some found =>
      obtain ⟨mapping, route⟩ := found
      cases handlerBelow? site.below with
      | none => exact .none
      | some handler =>
          have hpath : joinRoute (crlf base) route = crlf (joinRoute base route) := by
            rw [← joinRoute_crlf, crlf_route h.oneLine hfound]
          have hparameters := parametersBelow_returned h.linesBelow
          rw [← h.below] at hparameters
          apply Option.Rel.some
          constructor
          · rfl
          · exact h.method_eq mapping
          · exact congrArg String.ofList (summaryAbove_congr h.above)
          · simp [withReturns, hpath]
          · exact hparameters

/-- A line of a text with carriage returns yields the same endpoint as the line of the text. -/
theorem endpointAt?_crlf (text : List Char) (i : Nat) :
    Option.Rel SameEndpoint (endpointAt? text i) (endpointAt? (crlf text) i) := by
  rw [endpointAt?, endpointAt?, headerLines_crlf, Option.bind_assoc, Option.bind_assoc]
  simp only [endpoint?_finding?, basePathOf_headerOf_crlf]
  split
  · have hsites := getElem?_sites_crlf text i
    generalize (sites (lines text))[i]? = site, (sites (lines (crlf text)))[i]? = site' at hsites ⊢
    cases hsites with
    | none => exact .none
    | some hsite => exact hsite.endpoint? _
  · exact .none

/-!
## Controllers

The two texts have as many lines, and their endpoints are compared line by line.
-/

/-- Where the base path is on one line, so are the paths. -/
theorem withReturns_path {name text : String} {c : Controller} {e : Endpoint}
    (h : ofText? name text = some c) (hbase : '\n' ∉ c.basePath.toList) (he : e ∈ c.endpoints) :
    withReturns e.path = e.path := by
  rw [endpoints_ofText? h] at he
  obtain ⟨i, -, hi⟩ := List.mem_filterMap.mp he
  obtain ⟨line, mapping, route, _, _, hline, hmapping, -, -, rfl⟩ := endpointAt?_eq_some_iff.mp hi
  rw [basePath_ofText? h, String.toList_ofList] at hbase
  have hfound : Mapping.ofLine? line = some (mapping, route) := by
    unfold mappingAt? at hmapping
    split at hmapping
    · rwa [hline] at hmapping
    · cases hmapping
  have hroute := crlf_route (not_mem_of_mem_lines (List.mem_of_getElem? hline)) hfound
  rw [withReturns, String.toList_ofList, ← joinRoute_crlf, crlf_eq_self hbase, hroute]

theorem toList_withReturns (text : String) : (withReturns text).toList = crlf text.toList := by
  rw [withReturns, String.toList_ofList]

/-- The controllers of the two texts agree part by part. -/
theorem sameController_of_ofText? {name text : String} {c c' : Controller}
    (hc : ofText? name text = some c) (hc' : ofText? name (withReturns text) = some c') :
    SameController c c' := by
  have hendpoints : List.Forall₂ SameEndpoint c.endpoints c'.endpoints := by
    rw [endpoints_ofText? hc, endpoints_ofText? hc', toList_withReturns, lines_crlf, length_returned]
    -- Line by line the endpoints are the same, and both lists are filtered from the same numbers.
    apply List.rel_filterMap (R := Eq)
    · rintro i _ rfl
      exact endpointAt?_crlf text.toList i
    · exact List.forall₂_refl _
  constructor
  · rw [name_ofText? hc, name_ofText? hc']
  · rw [basePath_ofText? hc, basePath_ofText? hc', toList_withReturns, basePathOf_headerOf_crlf,
      withReturns, String.toList_ofList]
  · exact hendpoints
  · intro hfeed
    have hpaths := (List.forall₂_and_left _ _).mpr
      ⟨fun e he => withReturns_path hc hfeed he, hendpoints⟩
    rw [eq_comm, ← List.forall₂_eq_eq_eq, List.forall₂_map_left_iff, List.forall₂_map_right_iff]
    refine hpaths.imp ?_
    rintro e e' ⟨hreturns, hsame⟩
    rw [hsame.path, hreturns]

/-- A text with carriage returns and line feeds at its line ends gives the same controller as with
line feeds, if any, and the same description as a README. -/
theorem ofText?_withReturns (name text : String) :
    Option.Rel SameController (ofText? name text) (ofText? name (withReturns text)) ∧
      Readme.descriptionIn? (withReturns text).toList = Readme.descriptionIn? text.toList := by
  constructor
  · have hmarked : isMarked (withReturns text).toList = isMarked text.toList := by
      rw [toList_withReturns, isMarked_crlf]
    cases hmark : isMarked text.toList with
    | false =>
        rw [hmark] at hmarked
        simp only [ofText?, survey?, hmark, hmarked, Bool.false_eq_true, if_false, Option.map_none]
        exact .none
    | true =>
        rw [hmark] at hmarked
        obtain ⟨c, hc⟩ := ofText?_of_isMarked name hmark
        obtain ⟨c', hc'⟩ := ofText?_of_isMarked name hmarked
        rw [hc, hc']
        exact .some (sameController_of_ofText? hc hc')
  · rw [toList_withReturns, Readme.descriptionIn?_crlf]

end ModuleReadme.Controller
