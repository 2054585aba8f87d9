import ModuleReadme.Controller.Survey
import Mathlib.Data.List.Forall2

/-!
# Lines by their numbers

The survey of a controller goes through sites, each with the lines above and below it. Here the same
things are named by line numbers: the mapping and the signature on a line, the line of the handler
that a mapping is paired with, and the endpoint that a line yields. The endpoints of a controller
are the ones that its lines yield, in the order of the lines (`endpoints_ofText?`).
-/

namespace ModuleReadme.Controller

open Text

/-!
## Lists by positions

Recursion on a list is turned into a loop over positions, once for collecting and once for a search.
-/

/-- What the elements behind the first `k` give, collected by their positions. -/
theorem filterMap_drop_eq (f : α → Option β) (l : List α) (k : Nat) :
    (l.drop k).filterMap f =
      (List.range l.length).filterMap fun i => if k ≤ i then l[i]?.bind f else none := by
  induction l generalizing k with
  | nil => simp
  | cons x l ih =>
      rw [List.length_cons, List.range_succ_eq_map, List.filterMap_cons, List.filterMap_map]
      cases k with
      | zero =>
          have hl := ih 0
          simp only [List.drop_zero, Nat.zero_le, if_true] at hl
          cases hx : f x <;> simp [hx, hl]
      | succ k => simp [ih k]

/-- A search through a stretch of a list, by positions. -/
theorem findSome?_take_drop_eq (f : α → Option β) (l : List α) (s n : Nat) :
    ((l.drop s).take n).findSome? f =
      ((List.range' s n).find? fun k => (l[k]?.bind f).isSome).bind fun k => l[k]?.bind f := by
  induction n generalizing s with
  | zero => simp
  | succ n ih =>
      rw [List.range'_succ, List.find?_cons]
      by_cases hs : s < l.length
      · rw [List.drop_eq_getElem_cons hs, List.take_succ_cons, List.findSome?_cons,
          List.getElem?_eq_getElem hs]
        cases hf : f l[s] with
        | some b => simp [hs, hf]
        | none => simp [hf, ih (s + 1)]
      · -- The stretch begins behind the end of the list, and so does what is left of it.
        have hnone : l[s]? = none := List.getElem?_eq_none (by omega)
        have hdrop : l.drop s = [] := List.drop_eq_nil_of_le (by omega)
        have hnext := ih (s + 1)
        rw [List.drop_eq_nil_of_le (by omega)] at hnext
        simp [hnone, hdrop, ← hnext]

/-!
## What is on a line

Lines are named by their numbers in the whole text, so that what is said of different parts of a
text can be compared.
-/

/-- The number of lines in the header of a text. The body begins with the line of this number. -/
def headerLines (text : List Char) : Nat :=
  match (lines text).findIdx? isClassDeclaration with
  | some i => i + 1
  | none => 0

/-- The mapping annotation on a line of the body, with its route. -/
def mappingAt? (text : List Char) (i : Nat) : Option (Mapping × List Char) :=
  if headerLines text ≤ i then (lines text)[i]?.bind Mapping.ofLine? else none

/-- The name in the signature on a line. -/
def signatureAt? (text : List Char) (k : Nat) : Option (List Char) :=
  (lines text)[k]?.bind fun line => signatureName? (trim line)

/-- A line of the body with a mapping annotation whose route is not empty. -/
def IsMappingLine (text : List Char) (i : Nat) : Prop := (mappingAt? text i).isSome

/-- A line that is a signature when it is trimmed. -/
def IsSignatureLine (text : List Char) (k : Nat) : Prop := (signatureAt? text k).isSome

/-- The line `k` is the first signature within reach below the line `i`. -/
structure IsHandlerLine (text : List Char) (i k : Nat) : Prop where
  below : i < k
  reached : k ≤ i + handlerReach
  signature : IsSignatureLine text k
  first : ∀ m, i < m → m < k → ¬ IsSignatureLine text m

/-- The endpoint that a line of the body yields, with everything that is known about it. -/
def endpointAt? (text : List Char) (i : Nat) : Option Endpoint :=
  if headerLines text ≤ i then
    ((sites (lines text))[i]?.bind (Site.finding? (basePathOf (headerOf text)))).bind
      Finding.endpoint?
  else none

/-!
## Endpoints by lines

The survey keeps mappings without a handler, too, since they are logged. Here they are left out.
-/

/-- The endpoint of a site: that of the mapping on its line, if a handler follows. -/
def Site.endpoint? (base : List Char) (site : Site) : Option Endpoint :=
  (Mapping.ofLine? site.line).bind fun (mapping, route) =>
    (handlerBelow? site.below).map fun handler => {
      handler := String.ofList handler
      path := String.ofList (joinRoute base route)
      method := mapping.method site.line
      parameters := parametersBelow site.below
      summary := String.ofList (summaryAbove site.above) }

theorem endpoint?_finding? (base : List Char) (site : Site) :
    (site.finding? base).bind Finding.endpoint? = site.endpoint? base := by
  unfold Site.finding? Site.endpoint?
  cases Mapping.ofLine? site.line with
  | none => rfl
  | some found => cases handlerBelow? site.below <;> rfl

theorem bodySites_eq (text : List Char) :
    bodySites text = (sites (lines text)).drop (headerLines text) := by
  unfold bodySites headerLines
  cases (lines text).findIdx? isClassDeclaration <;> rfl

theorem getElem?_sites (ls : List Line) (i : Nat) :
    (sites ls)[i]? = ls[i]?.map fun line => ⟨(ls.take i).reverse, line, ls.drop (i + 1)⟩ := by
  rw [sites, getElem?_sitesBelow]
  simp

theorem headerLines_le (text : List Char) : headerLines text ≤ (lines text).length := by
  rw [headerLines]
  cases hfound : (lines text).findIdx? isClassDeclaration with
  | none => exact Nat.zero_le _
  | some i => exact (List.findIdx?_eq_some_iff_findIdx_eq.mp hfound).1

/-- A controller is found in every text with a marker. -/
theorem ofText?_of_isMarked (name : String) {text : String} (h : isMarked text.toList = true) :
    ∃ c, ofText? name text = some c := by
  simp [ofText?, survey?, h]

theorem isSome_ofText? (name text : String) :
    (ofText? name text).isSome = isMarked text.toList := by
  unfold ofText? survey?
  cases isMarked text.toList <;> rfl

theorem name_ofText? {name text : String} {c : Controller} (h : ofText? name text = some c) :
    c.name = name := by
  unfold ofText? survey? at h
  split at h
  · cases h
    rfl
  · cases h

theorem basePath_ofText? {name text : String} {c : Controller} (h : ofText? name text = some c) :
    c.basePath = String.ofList (basePathOf (headerOf text.toList)) := by
  unfold ofText? survey? at h
  split at h
  · cases h
    rfl
  · cases h

/-- The endpoints of a controller are those that its lines yield, in their order. -/
theorem endpoints_ofText? {name text : String} {c : Controller} (h : ofText? name text = some c) :
    c.endpoints = (List.range (lines text.toList).length).filterMap (endpointAt? text.toList) := by
  unfold ofText? survey? at h
  split at h
  · cases h
    show ((bodySites text.toList).filterMap _).filterMap Finding.endpoint? = _
    rw [List.filterMap_filterMap, bodySites_eq, filterMap_drop_eq, sites, length_sitesBelow]
    apply List.filterMap_congr
    intro i _
    rw [endpointAt?, Option.bind_assoc, sites]
  · cases h

/-!
## Handlers by lines

The search goes through a window of lines, and the first one with a signature in it is the handler
line.
-/

theorem isHandlerLine_iff {text : List Char} {i k : Nat} :
    IsHandlerLine text i k ↔
      (List.range' (i + 1) handlerReach).find? (fun k => (signatureAt? text k).isSome) = some k := by
  rw [List.find?_range'_eq_some, List.mem_range'_1]
  constructor
  · intro h
    refine ⟨h.signature, ⟨h.below, ?_⟩, ?_⟩
    · have hreached := h.reached
      omega
    · intro m him hmk
      simpa [IsSignatureLine] using h.first m him hmk
  · rintro ⟨hsig, ⟨hbelow, hreached⟩, hfirst⟩
    refine ⟨hbelow, by omega, hsig, ?_⟩
    intro m him hmk
    simpa [IsSignatureLine] using hfirst m him hmk

/-- The name of the handler below a line is the one on the handler line. -/
theorem handlerBelow?_eq_some_iff {text handler : List Char} {i : Nat} :
    handlerBelow? ((lines text).drop (i + 1)) = some handler ↔
      ∃ k, IsHandlerLine text i k ∧ signatureAt? text k = some handler := by
  rw [handlerBelow?, findSome?_take_drop_eq, Option.bind_eq_some_iff]
  simp only [isHandlerLine_iff]
  rfl

/-- There is a handler line wherever there is a signature within reach. -/
theorem exists_isHandlerLine {text : List Char} {i k : Nat} (hik : i < k)
    (hk : k ≤ i + handlerReach) (hsig : IsSignatureLine text k) :
    ∃ m, IsHandlerLine text i m := by
  simp only [isHandlerLine_iff]
  rw [← Option.isSome_iff_exists, List.find?_isSome]
  exact ⟨k, List.mem_range'_1.mpr ⟨hik, by omega⟩, hsig⟩

/-- What a line yields is put together from the mapping on it, the handler line below it, and what
stands above and below. -/
theorem endpointAt?_eq_some_iff {text : List Char} {i : Nat} {e : Endpoint} :
    endpointAt? text i = some e ↔
      ∃ line mapping route k handler,
        (lines text)[i]? = some line ∧ mappingAt? text i = some (mapping, route) ∧
        IsHandlerLine text i k ∧ signatureAt? text k = some handler ∧
        e = {
          handler := String.ofList handler
          path := String.ofList (joinRoute (basePathOf (headerOf text)) route)
          method := mapping.method line
          parameters := parametersBelow ((lines text).drop (i + 1))
          summary := String.ofList (summaryAbove ((lines text).take i).reverse) } := by
  rw [endpointAt?, mappingAt?, Option.bind_assoc, getElem?_sites]
  simp only [endpoint?_finding?]
  split
  · constructor
    · intro h
      -- The site is the line with all that is above and below it.
      obtain ⟨site, hsite, hendpoint⟩ := Option.bind_eq_some_iff.mp h
      obtain ⟨line, hline, rfl⟩ := Option.map_eq_some_iff.mp hsite
      obtain ⟨⟨mapping, route⟩, hmapping, hhandled⟩ := Option.bind_eq_some_iff.mp hendpoint
      obtain ⟨handler, hhandler, rfl⟩ := Option.map_eq_some_iff.mp hhandled
      obtain ⟨k, hk, hname⟩ := handlerBelow?_eq_some_iff.mp hhandler
      exact ⟨line, mapping, route, k, handler, hline, by rw [hline]; exact hmapping, hk, hname, rfl⟩
    · rintro ⟨line, mapping, route, k, handler, hline, hmapping, hk, hname, rfl⟩
      have hhandler := handlerBelow?_eq_some_iff.mpr ⟨k, hk, hname⟩
      rw [hline, Option.bind_some] at hmapping
      rw [hline, Option.map_some, Option.bind_some, Site.endpoint?, hmapping, Option.bind_some,
        hhandler]
      rfl
  · simp

/-- The lines that yield an endpoint are the mapping lines with a handler below them. -/
theorem endpointAt?_isSome_iff {text : List Char} {i : Nat} :
    (endpointAt? text i).isSome ↔ IsMappingLine text i ∧ ∃ k, IsHandlerLine text i k := by
  rw [Option.isSome_iff_exists]
  constructor
  · rintro ⟨e, he⟩
    obtain ⟨line, mapping, route, k, handler, -, hmapping, hk, -⟩ := endpointAt?_eq_some_iff.mp he
    exact ⟨by rw [IsMappingLine, hmapping]; rfl, k, hk⟩
  · rintro ⟨hmapping, k, hk⟩
    obtain ⟨⟨mapping, route⟩, hmapping⟩ := Option.isSome_iff_exists.mp hmapping
    obtain ⟨handler, hname⟩ := Option.isSome_iff_exists.mp hk.signature
    -- A mapping is found on a line, so the line is there.
    obtain ⟨line, hline⟩ : ∃ line, (lines text)[i]? = some line := by
      unfold mappingAt? at hmapping
      split at hmapping
      · obtain ⟨line, hline, -⟩ := Option.bind_eq_some_iff.mp hmapping
        exact ⟨line, hline⟩
      · cases hmapping
    exact ⟨_, endpointAt?_eq_some_iff.mpr
      ⟨line, mapping, route, k, handler, hline, hmapping, hk, hname, rfl⟩⟩

/-!
## What an endpoint depends on

An endpoint is found from its line, a few lines above and below it, and a stretch of text below it.
Wherever two lines have the same surroundings within these bounds (`SameSurroundings`), in one text
or in two, they yield the same endpoint or none, if only the base paths are the same
(`endpointAt?_eq_of_sameSurroundings`).
-/

/-! ### Windows around a line -/

/-- The lines above a line that are looked at, the nearest first. -/
def windowAbove (text : List Char) (i : Nat) : List Line :=
  ((lines text).take i).reverse.take summaryReach

/-- The lines below a line that are looked at. -/
def windowBelow (text : List Char) (i : Nat) : List Line :=
  ((lines text).drop (i + 1)).take handlerReach

/-- The characters below a line that are looked at. -/
def charactersBelow (text : List Char) (i : Nat) : List Char :=
  (unlines ((lines text).drop (i + 1))).take parameterReach

/-- A line of one text and a line of another that look the same as far as anything looks. -/
structure SameSurroundings (A B : List Char) (i j : Nat) : Prop where
  line : (lines A)[i]? = (lines B)[j]?
  above : windowAbove A i = windowAbove B j
  below : windowBelow A i = windowBelow B j
  characters : charactersBelow A i = charactersBelow B j

/-! ### Locality -/

/-- The endpoint of a site depends on nothing outside of the windows. -/
theorem Site.endpoint?_congr {base : List Char} {s r : Site} (hline : s.line = r.line)
    (habove : s.above.take summaryReach = r.above.take summaryReach)
    (hbelow : s.below.take handlerReach = r.below.take handlerReach)
    (hcharacters : (unlines s.below).take parameterReach = (unlines r.below).take parameterReach) :
    s.endpoint? base = r.endpoint? base := by
  have hhandler : handlerBelow? s.below = handlerBelow? r.below := by
    rw [handlerBelow?, handlerBelow?, hbelow]
  have hparameters : parametersBelow s.below = parametersBelow r.below := by
    rw [parametersBelow, parametersBelow, hcharacters]
  have hsummary : summaryAbove s.above = summaryAbove r.above := by
    rw [summaryAbove, summaryAbove, commentAbove, commentAbove, habove]
  rw [Site.endpoint?, Site.endpoint?, hline, hhandler, hparameters, hsummary]

/-- Lines of two bodies with the same surroundings yield the same endpoint, or none, if the base
paths are the same. These are the endpoints of the two controllers. -/
theorem endpointAt?_eq_of_sameSurroundings {nameA nameB A B : String} {a b : Controller}
    (ha : ofText? nameA A = some a) (hb : ofText? nameB B = some b)
    (hbase : a.basePath = b.basePath) {i j : Nat} (hi : headerLines A.toList ≤ i)
    (hj : headerLines B.toList ≤ j) (h : SameSurroundings A.toList B.toList i j) :
    endpointAt? A.toList i = endpointAt? B.toList j ∧
      a.endpoints = (List.range (lines A.toList).length).filterMap (endpointAt? A.toList) ∧
      b.endpoints = (List.range (lines B.toList).length).filterMap (endpointAt? B.toList) := by
  refine ⟨?_, endpoints_ofText? ha, endpoints_ofText? hb⟩
  rw [basePath_ofText? ha, basePath_ofText? hb, String.ofList_inj] at hbase
  rw [endpointAt?, endpointAt?, if_pos hi, if_pos hj, Option.bind_assoc, Option.bind_assoc]
  simp only [endpoint?_finding?, getElem?_sites, hbase]
  rw [h.line]
  cases (lines B.toList)[j]? with
  | none => rfl
  | some line => exact Site.endpoint?_congr rfl h.above h.below h.characters

/-- An import above everything that is looked at makes no difference to the endpoint. -/
theorem endpointAt?_eq_below_import :
    let short := "@RestController\n\n\n\n\n\n\n\n\n\n\n@GetMapping(\"/a\")\npublic String f()\n"
    let long := "import a.B;\n" ++ short
    ∃ a b, ofText? "A" long = some a ∧ ofText? "B" short = some b ∧ a.basePath = b.basePath ∧
      headerLines long.toList ≤ 12 ∧ headerLines short.toList ≤ 11 ∧
      SameSurroundings long.toList short.toList 12 11 ∧
      (endpointAt? short.toList 11).isSome ∧
      endpointAt? long.toList 12 = endpointAt? short.toList 11 := by
  intro short long
  have hlong : isMarked long.toList = true := by decide
  have hshort : isMarked short.toList = true := by decide
  obtain ⟨a, ha⟩ := ofText?_of_isMarked "A" hlong
  obtain ⟨b, hb⟩ := ofText?_of_isMarked "B" hshort
  have hbase : a.basePath = b.basePath := by
    rw [basePath_ofText? ha, basePath_ofText? hb]
    decide +kernel
  have hi : headerLines long.toList ≤ 12 := by decide +kernel
  have hj : headerLines short.toList ≤ 11 := by decide +kernel
  have h : SameSurroundings long.toList short.toList 12 11 := by
    -- The four windows are compared by evaluation, all at once.
    have hall : (lines long.toList)[12]? = (lines short.toList)[11]? ∧
        windowAbove long.toList 12 = windowAbove short.toList 11 ∧
        windowBelow long.toList 12 = windowBelow short.toList 11 ∧
        charactersBelow long.toList 12 = charactersBelow short.toList 11 := by decide +kernel
    exact ⟨hall.1, hall.2.1, hall.2.2.1, hall.2.2.2⟩
  have hmapping : IsMappingLine short.toList 11 := by
    have hsome : (mappingAt? short.toList 11).isSome := by decide +kernel
    exact hsome
  have hsignature : IsSignatureLine short.toList 12 := by
    have hsome : (signatureAt? short.toList 12).isSome := by decide +kernel
    exact hsome
  have hsome : (endpointAt? short.toList 11).isSome :=
    endpointAt?_isSome_iff.mpr
      ⟨hmapping, exists_isHandlerLine (by omega) (by decide) hsignature⟩
  have hsame := (endpointAt?_eq_of_sameSurroundings ha hb hbase hi hj h).1
  exact ⟨a, b, ha, hb, hbase, hi, hj, h, hsome, hsame⟩

end ModuleReadme.Controller
