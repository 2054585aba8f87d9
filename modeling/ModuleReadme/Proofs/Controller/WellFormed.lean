import ModuleReadme.Proofs.Controller.Declarations
import ModuleReadme.Proofs.Controller.Positions
import ModuleReadme.Proofs.Controller.SummaryLines
import ModuleReadme.Proofs.Readme.Synthesis
import ModuleReadme.Proofs.Text.Lines
import ModuleReadme.Proofs.Text.Trimming

/-!
# What is found in a controller

Whatever a text with a controller marker looks like, the controller that is found in it is well
formed (`isWellFormed_of_ofText?`). Base path, routes and parameters come from literals, which end
at the first quote, so that no quote gets into them; the name of a handler is a run of word
characters, and a summary is the trimmed text of one line. Since the URL of an example request is
put together from these, no text of a controller ends the quotes around it in a command.
-/

namespace ModuleReadme

open Text

/-!
## Well-formed records

What is asked of each part is what keeps it from ending the quotes or the line that it is written
into.
-/

/-- A text without single and double quotes. -/
def IsUnquoted (text : String) : Prop := ∀ c ∈ text.toList, Controller.isQuote c = false

theorem IsUnquoted.not_mem {text : String} (h : IsUnquoted text) : '"' ∉ text.toList := by
  intro hmem
  have hquote := h '"' hmem
  simp [Controller.isQuote] at hquote

/-- A parameter with a name and a default value that could be written between quotes. -/
structure Parameter.IsWellFormed (q : Parameter) : Prop where
  name_ne : q.name ≠ ""
  name_unquoted : IsUnquoted q.name
  defaultValue_ne : q.defaultValue ≠ ""
  defaultValue_unquoted : IsUnquoted q.defaultValue

/-- A text on one line that is trimmed and is no tag such as `@param`. -/
structure IsSummaryText (text : String) : Prop where
  oneLine : '\n' ∉ text.toList
  head : ∀ c, text.toList.head? = some c → isBlank c = false ∧ c ≠ '@'
  last : ∀ c, text.toList.getLast? = some c → isBlank c = false

/-- An endpoint for a route below a base path. -/
structure Endpoint.IsWellFormed (base route : List Char) (e : Endpoint) : Prop where
  handler_ne : e.handler ≠ ""
  handler_word : ∀ c ∈ e.handler.toList, isWord c = true
  route_ne : route ≠ []
  /-- A slash is put in front of the path if there is none. -/
  path_eq : e.path.toList =
    if (base ++ route).head? = some '/' then base ++ route else '/' :: (base ++ route)
  path_head : e.path.toList.head? = some '/'
  path_unquoted : IsUnquoted e.path
  parameters : ∀ q ∈ e.parameters, q.IsWellFormed
  summary : IsSummaryText e.summary

/-- A controller whose endpoints are those of mapping annotations in a text. -/
structure Controller.IsWellFormed (text : List Char) (c : Controller) : Prop where
  basePath : IsUnquoted c.basePath
  endpoints : ∀ e ∈ c.endpoints, ∃ i mapping route,
    Controller.endpointAt? text i = some e ∧
      Controller.mappingAt? text i = some (mapping, route) ∧
      e.IsWellFormed c.basePath.toList route

namespace Controller

variable {text line route : List Char} {q : Parameter} {m : Mapping}

/-!
## Literals

A literal ends at the first quote of either kind. So no literal holds a quote, be it the one that
it began with or the other.
-/

theorem not_isQuote_of_argumentLiteral? {arguments literal : List Char}
    (h : argumentLiteral? arguments = some literal) : ∀ c ∈ literal, isQuote c = false := by
  obtain ⟨⟨_, rest⟩, hliteral, rfl⟩ := Option.map_eq_some_iff.mp h
  obtain ⟨-, -, -, -, hunquoted, -⟩ := literal?_eq_some_iff.mp hliteral
  exact hunquoted

theorem not_isQuote_of_literalOf? {literal : List Char} (h : m.literalOf? text = some literal) :
    ∀ c ∈ literal, isQuote c = false := by
  obtain ⟨arguments, -, hliteral⟩ := Option.bind_eq_some_iff.mp h
  exact not_isQuote_of_argumentLiteral? hliteral

/-- The base path of a controller has no quotes, be there a general annotation or not. -/
theorem not_isQuote_basePathOf (header : List Char) :
    ∀ c ∈ basePathOf header, isQuote c = false := by
  rw [basePathOf]
  cases hbase : leftmost Mapping.request.literalOf? header with
  | none => simp
  | some base =>
      obtain ⟨later, -, hliteral⟩ := exists_of_leftmost_eq_some hbase
      exact not_isQuote_of_literalOf? hliteral

/-- A route is a literal that is not empty. -/
theorem route_of_mappingAt? {i : Nat} (h : mappingAt? text i = some (m, route)) :
    route ≠ [] ∧ ∀ c ∈ route, isQuote c = false := by
  rw [mappingAt?] at h
  split at h
  · obtain ⟨line, -, hline⟩ := Option.bind_eq_some_iff.mp h
    obtain ⟨later, -, hlater⟩ := exists_of_leftmost_eq_some hline
    obtain ⟨mapping, -, hmapping⟩ := List.exists_of_findSome?_eq_some hlater
    obtain ⟨literal, hfilter, heq⟩ := Option.map_eq_some_iff.mp hmapping
    obtain ⟨rfl, rfl⟩ := Prod.mk.inj heq
    obtain ⟨hliteral, hne⟩ := Option.filter_eq_some_iff.mp hfilter
    exact ⟨by simpa using hne, not_isQuote_of_literalOf? hliteral⟩
  · cases h

/-!
## Handlers and paths

A path is put together of base path and route, which are literals, and a slash.
-/

/-- The name in a signature is a run of word characters that is not empty. -/
theorem isWord_of_signatureName? {name : List Char} (h : signatureName? line = some name) :
    name ≠ [] ∧ ∀ c ∈ name, isWord c = true := by
  unfold signatureName? at h
  split at h
  · simp only at h
    split at h
    · cases h
    · next hname =>
      obtain rfl := Option.some.inj h
      simp only [Bool.or_eq_true, not_or] at hname
      exact ⟨by simpa using hname.1.1, fun c => mem_takeEndWhile_imp⟩
  · cases h

theorem joinRoute_eq (base route : List Char) :
    joinRoute base route =
      if (base ++ route).head? = some '/' then base ++ route else '/' :: (base ++ route) := by
  unfold joinRoute
  split
  · next rest hpath => simp [hpath]
  · next hpath =>
    rw [if_neg]
    intro hhead
    obtain ⟨rest, hrest⟩ := List.head?_eq_some_iff.mp hhead
    exact hpath rest hrest

theorem head?_joinRoute (base route : List Char) : (joinRoute base route).head? = some '/' := by
  unfold joinRoute
  split <;> rfl

/-- The slash in front of a path is all that is not in base path and route. -/
theorem mem_joinRoute {base route : List Char} {c : Char} (h : c ∈ joinRoute base route) :
    c = '/' ∨ c ∈ base ∨ c ∈ route := by
  rw [joinRoute_eq] at h
  split at h
  · exact .inr (List.mem_append.mp h)
  · exact (List.mem_cons.mp h).imp_right List.mem_append.mp

/-!
## Parameters

Each search gives what a matcher gave somewhere in the text. What holds of every match then holds
of what is found.
-/

theorem exists_of_beforeClose_eq_some {α : Type} {matcher : List Char → Option α} {a : α}
    (h : beforeClose matcher text = some a) : ∃ later, matcher later = some a := by
  rw [beforeClose_eq_firstThrough, firstThrough_eq_some_iff] at h
  obtain ⟨-, here, -, -, hhere, -⟩ := h
  exact ⟨here, hhere⟩

/-- The literal of an argument is not empty. -/
theorem IsArgument.value_plain {words : List (List Char)} {value front : List Char}
    (h : IsArgument words value front) : value ≠ [] ∧ ∀ c ∈ value, isQuote c = false := by
  obtain @⟨_, _, -, @⟨_, _, _, _, -, -, -, -, hne, hunquoted⟩⟩ := h
  exact ⟨hne, hunquoted⟩

theorem value_plain_of_defaultAhead? {value rest : List Char}
    (h : defaultAhead? text = some (value, rest)) :
    value ≠ [] ∧ ∀ c ∈ value, isQuote c = false := by
  obtain ⟨later, hlater⟩ := exists_of_beforeClose_eq_some h
  obtain ⟨⟨found, behind⟩, hfound, hvalue⟩ := Option.bind_eq_some_iff.mp hlater
  obtain ⟨_, -, heq⟩ := Option.map_eq_some_iff.mp hvalue
  obtain ⟨rfl, -⟩ := Prod.mk.inj heq
  obtain ⟨front, hargument, -⟩ := defaultArgument?_eq_some_iff.mp hfound
  exact hargument.value_plain

/-- A parameter is found with a name and a default value that are literals and not empty. -/
theorem isWellFormed_of_requestParam? {rest : List Char} (h : requestParam? text = some (q, rest)) :
    q.IsWellFormed := by
  rw [requestParam?_eq_bind] at h
  obtain ⟨arguments, -, hclose⟩ := Option.bind_eq_some_iff.mp h
  obtain ⟨later, hlater⟩ := exists_of_beforeClose_eq_some hclose
  obtain ⟨⟨name, behind⟩, hname, hvalue⟩ := Option.bind_eq_some_iff.mp hlater
  obtain ⟨⟨value, _⟩, hdefault, heq⟩ := Option.map_eq_some_iff.mp hvalue
  obtain ⟨rfl, -⟩ := Prod.mk.inj heq
  -- Name and default value are the literals of two arguments.
  obtain ⟨front, hargument, -⟩ := nameArgument?_eq_some_iff.mp hname
  obtain ⟨hnamene, hnameplain⟩ := hargument.value_plain
  obtain ⟨hvaluene, hvalueplain⟩ := value_plain_of_defaultAhead? hdefault
  exact {
    name_ne := by simpa using hnamene
    name_unquoted := by simpa [IsUnquoted] using hnameplain
    defaultValue_ne := by simpa using hvaluene
    defaultValue_unquoted := by simpa [IsUnquoted] using hvalueplain }

theorem isWellFormed_of_mem_parametersIn (h : q ∈ parametersIn text) : q.IsWellFormed := by
  obtain ⟨later, rest, hlater⟩ := exists_of_mem_allMatches h
  exact isWellFormed_of_requestParam? hlater

/-!
## Summaries

The rule for summaries gives nothing or the text of a line.
-/

/-- The text of a line of a comment is a stretch of this line. -/
theorem isInfix_commentText (line : Line) : commentText line <:+: line := by
  have hunclosed :
      (if "*/".toList.isSuffixOf line then line.dropLast.dropLast else line) <+: line := by
    split
    · exact (List.dropLast_prefix _).trans (List.dropLast_prefix _)
    · exact List.prefix_refl line
  rw [commentText]
  refine (isInfix_trim _).trans (List.IsInfix.trans ?_ hunclosed.isInfix)
  exact ((List.dropWhile_suffix _).trans (List.dropWhile_suffix _)).isInfix

/-- The text of a line of a comment is a summary if it is no tag. -/
theorem isSummaryText_commentText (hline : '\n' ∉ line)
    (htag : (commentText (trim line)).head? ≠ some '@') :
    IsSummaryText (String.ofList (commentText (trim line))) := by
  constructor
  · rw [String.toList_ofList]
    exact fun hmem => hline ((isInfix_trim line).subset ((isInfix_commentText _).subset hmem))
  · intro c hc
    rw [String.toList_ofList] at hc
    obtain ⟨rest, hrest⟩ := List.head?_eq_some_iff.mp hc
    refine ⟨not_isBlank_head_trim hrest, ?_⟩
    rintro rfl
    exact htag hc
  · intro c hc
    rw [String.toList_ofList] at hc
    exact not_of_getLast?_dropEndWhile hc

/-- What is found above a line is a summary, or nothing. -/
theorem isSummaryText_summaryAt {i : Nat} (hi : i ≤ (lines text).length) :
    IsSummaryText (String.ofList (summaryAt (lines text) i)) := by
  have hnil : IsSummaryText (String.ofList []) := ⟨by simp, by simp, by simp⟩
  have hsummary := isSummary_summaryAt hi
  generalize summaryAt (lines text) i = summary at hsummary ⊢
  cases hsummary with
  | nothing => exact hnil
  | code => exact hnil
  | textless => exact hnil
  | text hspan hk hline =>
      obtain ⟨-, -, line, hline', -, htag⟩ := hk.1
      obtain rfl := Option.some.inj (hline.symm.trans hline')
      exact isSummaryText_commentText (not_mem_of_mem_lines (List.mem_of_getElem? hline)) htag

/-!
## Endpoints and commands

Of the command only the URL comes from the text, and the two quotes are those around it.
-/

/-- The endpoint of a line is one for the route of the mapping on this line. -/
theorem isWellFormed_of_endpointAt? {i : Nat} {e : Endpoint} (h : endpointAt? text i = some e) :
    ∃ mapping route, mappingAt? text i = some (mapping, route) ∧
      e.IsWellFormed (basePathOf (headerOf text)) route := by
  obtain ⟨line, mapping, route, k, handler, hline, hmapping, -, hhandler, rfl⟩ :=
    endpointAt?_eq_some_iff.mp h
  have hi : i < (lines text).length := (List.getElem?_eq_some_iff.mp hline).1
  -- The name comes from a signature, and the route from a mapping.
  obtain ⟨signature, -, hname⟩ := Option.bind_eq_some_iff.mp hhandler
  obtain ⟨hne, hword⟩ := isWord_of_signatureName? hname
  obtain ⟨hroute, hunquoted⟩ := route_of_mappingAt? hmapping
  refine ⟨mapping, route, hmapping, ?_⟩
  exact {
    handler_ne := by simpa using hne
    handler_word := by simpa using hword
    route_ne := hroute
    path_eq := by rw [String.toList_ofList, joinRoute_eq]
    path_head := by rw [String.toList_ofList, head?_joinRoute]
    path_unquoted := by
      intro c hc
      rw [String.toList_ofList] at hc
      rcases mem_joinRoute hc with rfl | hbase | hroute
      · decide
      · exact not_isQuote_basePathOf _ c hbase
      · exact hunquoted c hroute
    parameters := fun q hq => isWellFormed_of_mem_parametersIn hq
    summary := isSummaryText_summaryAt hi.le }

/-- The URL of a well-formed endpoint has no double quotes. -/
theorem not_mem_url_of_isWellFormed {a : Appearance} {base : List Char} {e : Endpoint}
    (ha : '"' ∉ a.baseUrl.toList) (h : e.IsWellFormed base route) : '"' ∉ (a.url e).toList := by
  refine Readme.not_mem_url (by decide) ha h.path_unquoted.not_mem fun q hq => ?_
  have hparameter := h.parameters q hq
  exact ⟨hparameter.name_unquoted.not_mem, hparameter.defaultValue_unquoted.not_mem⟩

/-- A controller that is found in a text is well formed. -/
theorem isWellFormed_controller {name text : String} {c : Controller}
    (h : ofText? name text = some c) : c.IsWellFormed text.toList where
  basePath := by
    intro d hd
    rw [basePath_ofText? h, String.toList_ofList] at hd
    exact not_isQuote_basePathOf _ d hd
  endpoints := by
    intro e he
    rw [endpoints_ofText? h] at he
    obtain ⟨i, -, hi⟩ := List.mem_filterMap.mp he
    obtain ⟨mapping, route, hmapping, hwell⟩ := isWellFormed_of_endpointAt? hi
    refine ⟨i, mapping, route, hi, hmapping, ?_⟩
    rwa [basePath_ofText? h, String.toList_ofList]

/-- Whatever a text looks like, what is found in it is well formed, and the commands for its
endpoints have no double quotes but those around the URL. -/
theorem isWellFormed_of_ofText? {name text : String} {c : Controller}
    (h : ofText? name text = some c) :
    c.IsWellFormed text.toList ∧
      ∀ a : Appearance, '"' ∉ a.baseUrl.toList → ∀ e ∈ c.endpoints,
        (a.curl e).toList.count '"' = 2 ∧ (a.curl e).toList.getLast? = some '"' := by
  have hwell : c.IsWellFormed text.toList := isWellFormed_controller h
  refine ⟨hwell, fun a ha e he => ?_⟩
  obtain ⟨i, mapping, route, -, -, hendpoint⟩ := hwell.endpoints e he
  exact Readme.quotes_curl (not_mem_url_of_isWellFormed ha hendpoint)

/-- A base path over two lines and literals that end with the other quote. -/
theorem isWellFormed_of_ofText?_mixedQuotes :
    let text := "@RestController\n@RequestMapping(\"api\n')\npublic class A \x7b\n" ++
      "  /** Runs\n   * it */\n  @PostMapping('run\")\n" ++
      "  public String run(@RequestParam(name = 'q', defaultValue = \"`$x'))"
    let e : Endpoint := {
      handler := "run"
      path := "/api\nrun"
      method := .post
      parameters := [{ name := "q", defaultValue := "`$x" }]
      summary := "Runs" }
    let c : Controller := { name := "A", basePath := "api\n", endpoints := [e] }
    let a : Appearance := { declaredMethods := true }
    ofText? "A" text = some c ∧ c.IsWellFormed text.toList ∧ '"' ∉ a.baseUrl.toList ∧
      a.curl e = "curl -X POST \"http://localhost:8080/api\nrun?q=`$x\"" ∧
      (a.curl e).toList.count '"' = 2 ∧ (a.curl e).toList.getLast? = some '"' := by
  intro text e c a
  have hfound : ofText? "A" text = some c := by decide +kernel
  have hbase : '"' ∉ a.baseUrl.toList := by decide
  obtain ⟨hwell, hquotes⟩ := isWellFormed_of_ofText? hfound
  exact ⟨hfound, hwell, hbase, by decide, hquotes a hbase e List.mem_cons_self⟩

end Controller

end ModuleReadme
