import ModuleReadme.Proofs.Readme.Synthesis

/-!
# The outline of a README

The headings of a README and the fences around its examples are those that its sections write, and
no text that comes from a module makes or hides one, as long as it stays on its line
(`outline_document`). So the headings tell what the module is made of.
-/

namespace ModuleReadme

open Readme Text

/-!
## Texts on one line

What is asked of the texts of a module is only that they stay on their line. A controller without
endpoints is not shown, so its name may be anything.
-/

/-- What is shown of an endpoint is on one line. -/
structure Endpoint.IsOneLine (e : Endpoint) : Prop where
  handler : '\n' ∉ e.handler.toList
  path : '\n' ∉ e.path.toList
  parameters : ∀ q ∈ e.parameters, '\n' ∉ q.name.toList ∧ '\n' ∉ q.defaultValue.toList
  summary : '\n' ∉ e.summary.toList

/-- What is shown of a module is on one line, text by text. -/
structure Profile.IsOneLine (p : Profile) : Prop where
  name : '\n' ∉ p.name.toList
  description : '\n' ∉ p.describe.toList
  controllers : ∀ c ∈ p.controllers, c.endpoints ≠ [] → '\n' ∉ c.name.toList
  endpoints : ∀ c ∈ p.controllers, ∀ e ∈ c.endpoints, e.IsOneLine
  dependencies : ∀ d ∈ p.manifest.dependencies.take listedDependencies, '\n' ∉ d.toList
  requestFile : ∀ file ∈ p.requestFile, '\n' ∉ file.toList

namespace Readme

variable {a : Appearance} {t : Timestamp} {p : Profile} {c : Controller} {e : Endpoint}

/-!
## Headings and fences

Headings and fences are told by the beginning of a line, and every line of a README but that of the
description begins with a fixed text or with the name of a method.
-/

/-- A line that begins as a heading does. -/
def isHeading (l : Line) : Bool := l.head? == some '#'

/-- A line that begins or ends a block of code. -/
def isFence (l : Line) : Bool := "```".toList.isPrefixOf l

def isMark (l : String) : Bool := isHeading l.toList || isFence l.toList

theorem isMark_request (m : HttpMethod) (url : String) : isMark (m.name ++ " " ++ url) = false := by
  cases m <;> simp [HttpMethod.name, isMark, isHeading, isFence, List.isPrefixOf]

theorem isMark_curl (a : Appearance) (e : Endpoint) : isMark (a.curl e) = false := by
  unfold Appearance.curl
  split <;> simp [isMark, isHeading, isFence, List.isPrefixOf]

/-- A full stop behind it makes no heading and no fence of a description. -/
theorem isMark_append_fullStop {d : String} (hheading : isHeading d.toList = false)
    (hfence : isFence d.toList = false) : isMark (d ++ "。") = false := by
  have hline : (d ++ "。").toList = d.toList ++ ['。'] := by simp
  rw [isMark, hline, Bool.or_eq_false_iff]
  constructor
  · rw [isHeading] at hheading ⊢
    cases hd : d.toList with
    | nil => rfl
    | cons first rest => simpa [hd] using hheading
  · rw [isFence, ← Bool.not_eq_true, List.isPrefixOf_iff_prefix] at hfence ⊢
    rw [List.prefix_concat_iff, not_or]
    -- A fence that is not there without the full stop would end with it.
    refine ⟨?_, hfence⟩
    intro heq
    have hlast := congrArg List.getLast? heq
    rw [List.getLast?_concat] at hlast
    exact absurd hlast (by decide)

theorem filter_isMark_items (items : List String) :
    (items.map ("- " ++ ·)).filter isMark = [] := by
  rw [List.filter_eq_nil_iff]
  intro l hl
  obtain ⟨s, -, rfl⟩ := List.mem_map.mp hl
  simp [isMark, isHeading, isFence]

/-!
## Sections

For each section, the lines of it that are headings or fences, as a list that is made like the
section itself. Whatever a text that is shown may be, it stands behind the beginning of its line.
-/

/-! ### Endpoints and controllers -/

def endpointMarks (number : Nat) (e : Endpoint) : List String :=
  ["#### " ++ toString number ++ ". " ++ e.handler ++ " 方法", "```bash", "```"]

theorem filter_isMark_endpointSection (a : Appearance) (number : Nat) (e : Endpoint) :
    (endpointSection a number e).filter isMark = endpointMarks number e := by
  rw [endpointSection]
  simp only [List.filter_append, filter_isMark_items, List.filter_cons, isMark_request]
  cases e.parameters.isEmpty <;> simp [when, endpointMarks, isMark, isHeading, isFence]

def endpointsMarks (number : Nat) (es : List Endpoint) : List String :=
  (es.mapIdx fun i e => endpointMarks (number + i) e).flatten

theorem endpointsMarks_cons (number : Nat) (e : Endpoint) (es : List Endpoint) :
    endpointsMarks number (e :: es) = endpointMarks number e ++ endpointsMarks (number + 1) es := by
  rw [endpointsMarks, endpointsMarks, List.mapIdx_cons, List.flatten_cons]
  simp only [Nat.add_zero, Nat.add_assoc, Nat.add_comm 1]

theorem filter_isMark_endpointSections (a : Appearance) (number : Nat) (es : List Endpoint) :
    (endpointSections a number es).filter isMark = endpointsMarks number es := by
  induction es generalizing number with
  | nil => rfl
  | cons e es ih =>
      rw [endpointSections, List.filter_append, filter_isMark_endpointSection, ih,
        endpointsMarks_cons]

def controllerMarks (c : Controller) : List String :=
  when (!c.endpoints.isEmpty) (("### " ++ c.name ++ " 接口") :: endpointsMarks 1 c.endpoints)

theorem filter_isMark_controllerSection (a : Appearance) (c : Controller) :
    (controllerSection a c).filter isMark = controllerMarks c := by
  rw [controllerSection, controllerMarks]
  cases c.endpoints.isEmpty with
  | true => rfl
  | false =>
      simp only [when, Bool.not_false, if_true, List.filter_append, filter_isMark_endpointSections]
      simp [isMark, isHeading, isFence]

theorem filter_isMark_interface (a : Appearance) (p : Profile) :
    (interface a p).filter isMark =
      when p.hasEndpoints ("## 接口文档" :: p.controllers.flatMap controllerMarks) := by
  rw [interface]
  cases p.hasEndpoints with
  | false => rfl
  | true =>
      simp only [when, if_true, List.filter_append, List.filter_flatMap,
        filter_isMark_controllerSection]
      simp [isMark, isHeading, isFence]

theorem filter_isMark_implementation (p : Profile) :
    (implementation p).filter isMark = ["## 技术实现", "### 核心组件", "### 配置要点"] := by
  have hdependencies : ((p.manifest.dependencies.take listedDependencies).map
      fun d => "- **" ++ d ++ "**: 核心依赖").filter isMark = [] := by
    rw [List.filter_eq_nil_iff]
    intro l hl
    obtain ⟨d, -, rfl⟩ := List.mem_map.mp hl
    simp [isMark, isHeading, isFence]
  rw [implementation]
  simp only [List.filter_append, hdependencies]
  cases p.controllers.isEmpty <;> simp [when, isMark, isHeading, isFence]

/-! ### Commands and tests -/

def commandMarks (c : Controller) : List String :=
  (c.endpoints.head?.map fun e => ["```bash", "# " ++ e.handler ++ " 接口测试", "```"]).getD []

theorem filter_isMark_curlSection (a : Appearance) (c : Controller) :
    (curlSection a c).filter isMark = commandMarks c := by
  rw [curlSection, commandMarks]
  cases c.endpoints with
  | nil => rfl
  | cons e es =>
      simp only [List.filter_cons, isMark_curl]
      simp [isMark, isHeading, isFence]

def testMarks (p : Profile) : List String :=
  "## 测试指导" :: when p.requestFile.isSome ["### 使用 HTTP 文件测试"] ++
    when (!p.controllers.isEmpty)
      ("### 使用 curl 测试" :: (p.controllers.take shownControllers).flatMap commandMarks)

theorem filter_isMark_testing (a : Appearance) (p : Profile) :
    (testing a p).filter isMark = testMarks p := by
  have hrequests : (requestFileSection p.requestFile).filter isMark =
      when p.requestFile.isSome ["### 使用 HTTP 文件测试"] := by
    cases p.requestFile with
    | none => rfl
    | some name => simp [requestFileSection, when, isMark, isHeading, isFence]
  have hcommands : ((p.controllers.take shownControllers).flatMap (curlSection a)).filter isMark =
      (p.controllers.take shownControllers).flatMap commandMarks := by
    simp only [List.filter_flatMap, filter_isMark_curlSection]
  -- Without controllers there are no commands, and no heading for them.
  rw [testing, testMarks]
  cases p.controllers.isEmpty with
  | true =>
      simp only [List.filter_append, hrequests]
      simp [when, isMark, isHeading, isFence]
  | false =>
      simp only [when, Bool.not_false, if_true, List.filter_append, hrequests, List.filter_cons,
        hcommands]
      simp [isMark, isHeading, isFence]

theorem filter_isMark_notes : notes.filter isMark = ["## 注意事项"] := by
  simp [notes, isMark, isHeading, isFence]

theorem filter_isMark_footer (t : Timestamp) : (footer t).filter isMark = [] := by
  simp [footer, isMark, isHeading, isFence]

/-! ### All sections -/

/-- The headings and fences of a README, in their order. -/
def marks (p : Profile) : List String :=
  ["# " ++ String.ofList (titleCase p.name.toList) ++ " 模块", "## 模块说明"]
    ++ when p.hasEndpoints ("## 接口文档" :: p.controllers.flatMap controllerMarks)
    ++ ["## 技术实现", "### 核心组件", "### 配置要点"] ++ testMarks p ++ ["## 注意事项"]

theorem filter_isMark_documentLines (a : Appearance) (t : Timestamp)
    (hheading : isHeading p.describe.toList = false) (hfence : isFence p.describe.toList = false) :
    (documentLines a t p).filter isMark = marks p := by
  have hintroduction : (introduction p).filter isMark =
      ["# " ++ String.ofList (titleCase p.name.toList) ++ " 模块", "## 模块说明"] := by
    simp only [introduction, List.filter_cons, isMark_append_fullStop hheading hfence]
    simp [isMark, isHeading, isFence]
  simp only [documentLines, List.filter_append, hintroduction, filter_isMark_interface,
    filter_isMark_implementation, filter_isMark_testing, filter_isMark_notes, filter_isMark_footer,
    List.append_nil, marks]

/-!
## Lines

The lines that sections write are the lines of the document if none of them holds a line feed. This
is shown section by section as well, from the texts that are shown.
-/

theorem not_mem_name (m : HttpMethod) : '\n' ∉ m.name.toList := fun h =>
  absurd (isUpper_of_mem_name h) (by decide)

theorem not_mem_url_of_isOneLine (ha : '\n' ∉ a.baseUrl.toList) (he : e.IsOneLine) :
    '\n' ∉ (a.url e).toList :=
  not_mem_url (by decide) ha he.path he.parameters

theorem not_mem_curl (ha : '\n' ∉ a.baseUrl.toList) (he : e.IsOneLine) :
    '\n' ∉ (a.curl e).toList := by
  unfold Appearance.curl
  split <;> simp [not_mem_url_of_isOneLine ha he, not_mem_name]

theorem not_mem_scenarios (handler : String) : ∀ s ∈ scenarios handler, '\n' ∉ s.toList := by
  have hall : ∀ row ∈ scenarioTable, ∀ s ∈ row.2, '\n' ∉ s.toList := by decide
  rw [scenarios]
  cases h : lookup? scenarioTable handler with
  | none => decide
  | some found =>
      obtain ⟨row, hrow, rfl⟩ := Option.map_eq_some_iff.mp h
      exact hall row (List.mem_of_find?_eq_some hrow)

theorem not_mem_endpointSection (ha : '\n' ∉ a.baseUrl.toList) (he : e.IsOneLine) (number : Nat) :
    ∀ l ∈ endpointSection a number e, '\n' ∉ l.toList := by
  have hpurpose : '\n' ∉ (purpose e).toList := by
    rw [purpose]
    split <;> simp [he.handler, he.summary]
  have hscenarios : ∀ l ∈ (scenarios e.handler).map ("- " ++ ·), '\n' ∉ l.toList := by
    intro l hl
    obtain ⟨s, hs, rfl⟩ := List.mem_map.mp hl
    simpa using not_mem_scenarios e.handler s hs
  simp only [endpointSection, when, List.forall_mem_append]
  refine ⟨⟨⟨⟨?_, ?_⟩, ?_⟩, hscenarios⟩, ?_⟩
  · simp [not_mem_toDigits, he.handler, he.path, hpurpose, not_mem_name]
  · split <;> simp
  · simp
  · simp [not_mem_url_of_isOneLine ha he, not_mem_name]

theorem not_mem_endpointSections (ha : '\n' ∉ a.baseUrl.toList) {es : List Endpoint}
    (hes : ∀ e ∈ es, e.IsOneLine) (number : Nat) :
    ∀ l ∈ endpointSections a number es, '\n' ∉ l.toList := by
  induction es generalizing number with
  | nil => simp [endpointSections]
  | cons e es ih =>
      rw [endpointSections, List.forall_mem_append]
      rw [List.forall_mem_cons] at hes
      exact ⟨not_mem_endpointSection ha hes.1 number, ih hes.2 (number + 1)⟩

theorem not_mem_interface (ha : '\n' ∉ a.baseUrl.toList) (hp : p.IsOneLine) :
    ∀ l ∈ interface a p, '\n' ∉ l.toList := by
  have hcontroller : ∀ c ∈ p.controllers, ∀ l ∈ controllerSection a c, '\n' ∉ l.toList := by
    intro c hc
    rw [controllerSection]
    -- A controller without endpoints writes nothing, so its name need not be on one line.
    cases h : c.endpoints.isEmpty with
    | true => simp [when]
    | false =>
        have hname : '\n' ∉ c.name.toList := hp.controllers c hc (by simpa using h)
        simp only [when, Bool.not_false, if_true, List.forall_mem_append]
        refine ⟨⟨by simp [hname], not_mem_endpointSections ha (hp.endpoints c hc) 1⟩, by simp⟩
  rw [interface]
  cases p.hasEndpoints with
  | false => simp [when]
  | true =>
      simp only [when, if_true, List.forall_mem_append, List.forall_mem_flatMap]
      exact ⟨by simp, hcontroller⟩

theorem not_mem_implementation (hp : p.IsOneLine) : ∀ l ∈ implementation p, '\n' ∉ l.toList := by
  have hdependencies : ∀ l ∈ (p.manifest.dependencies.take listedDependencies).map
      fun d => "- **" ++ d ++ "**: 核心依赖", '\n' ∉ l.toList := by
    intro l hl
    obtain ⟨d, hd, rfl⟩ := List.mem_map.mp hl
    simp [hp.dependencies d hd]
  simp only [implementation, List.forall_mem_append]
  refine ⟨⟨⟨⟨by simp, ?_⟩, hdependencies⟩, by simp [keyVariable]⟩, ?_⟩ <;>
    cases p.controllers.isEmpty <;> simp [when]

theorem not_mem_testing (ha : '\n' ∉ a.baseUrl.toList) (hp : p.IsOneLine) :
    ∀ l ∈ testing a p, '\n' ∉ l.toList := by
  have hrequests : ∀ l ∈ requestFileSection p.requestFile, '\n' ∉ l.toList := by
    cases h : p.requestFile with
    | none => simp [requestFileSection]
    | some file => simp [requestFileSection, hp.requestFile file h]
  have hcommand : ∀ c ∈ p.controllers, ∀ l ∈ curlSection a c, '\n' ∉ l.toList := by
    intro c hc
    have hes := hp.endpoints c hc
    rw [curlSection]
    -- Of a controller only the first endpoint is shown.
    cases h : c.endpoints with
    | nil => simp
    | cons e es =>
        have he : e.IsOneLine := hes e (by simp [h])
        simp [he.handler, not_mem_curl ha he]
  simp only [testing, when, List.forall_mem_append]
  refine ⟨⟨by simp, hrequests⟩, ?_⟩
  split
  · rw [List.forall_mem_cons, List.forall_mem_flatMap]
    exact ⟨by simp, fun c hc => hcommand c (List.mem_of_mem_take hc)⟩
  · simp

theorem not_mem_padded (width n : Nat) : '\n' ∉ (Timestamp.padded width n).toList := by
  simp [Timestamp.padded, not_mem_toDigits]

theorem not_mem_timestamp (t : Timestamp) : '\n' ∉ t.text.toList := by
  have hyear : '\n' ∉ (Timestamp.yearText t.year).toList := by
    unfold Timestamp.yearText
    split_ifs <;> simp [not_mem_padded]
  simp [Timestamp.text, hyear, not_mem_padded]

/-- No line of a README is broken by a text that is shown on it. -/
theorem not_mem_documentLines (t : Timestamp) (ha : '\n' ∉ a.baseUrl.toList) (hp : p.IsOneLine) :
    ∀ l ∈ documentLines a t p, '\n' ∉ l.toList := by
  have hintroduction : ∀ l ∈ introduction p, '\n' ∉ l.toList := by
    have hlines := not_mem_introduction hp.name hp.description
    rwa [List.forall_mem_map] at hlines
  simp only [documentLines, List.forall_mem_append]
  refine ⟨⟨⟨⟨⟨hintroduction, not_mem_interface ha hp⟩, not_mem_implementation hp⟩,
    not_mem_testing ha hp⟩, ?_⟩, ?_⟩
  · simp [notes, keyVariable]
  · simp [footer, not_mem_timestamp]

/-- The lines of a README are those that the sections write, with nothing behind the last one. -/
theorem lines_document (t : Timestamp) (ha : '\n' ∉ a.baseUrl.toList) (hp : p.IsOneLine) :
    lines (document a t p).toList = (documentLines a t p).map String.toList ++ [[]] := by
  have hlines : ∀ l ∈ (documentLines a t p).map String.toList, '\n' ∉ l := by
    rw [List.forall_mem_map]
    exact not_mem_documentLines t ha hp
  rw [document, toList_join_ended, ← List.append_nil (ended _), lines_ended_append hlines]
  rfl

/-!
## The outline

The marks are taken apart into headings and fences. Of the fences only the number counts, since they
come in pairs; each example has one pair.
-/

/-- The headings for a controller and its endpoints, which are numbered from one on. -/
def controllerOutline (c : Controller) : List String :=
  if c.endpoints = [] then []
  else ("### " ++ c.name ++ " 接口") ::
    c.endpoints.mapIdx fun i e => "#### " ++ toString (i + 1) ++ ". " ++ e.handler ++ " 方法"

/-- The endpoints that a command is shown for: the first one of each of the first two controllers,
if there is one. -/
def shownEndpoints (p : Profile) : List Endpoint :=
  (p.controllers.take 2).filterMap (·.endpoints.head?)

/-- The headings of a README. The comment in front of a command looks like one. -/
def outline (p : Profile) : List String :=
  ["# " ++ String.ofList (titleCase p.name.toList) ++ " 模块", "## 模块说明"]
    ++ (if 0 < p.endpointCount then "## 接口文档" :: p.controllers.flatMap controllerOutline else [])
    ++ ["## 技术实现", "### 核心组件", "### 配置要点", "## 测试指导"]
    ++ (if p.requestFile.isSome then ["### 使用 HTTP 文件测试"] else [])
    ++ (if p.controllers = [] then []
        else "### 使用 curl 测试" ::
          (shownEndpoints p).map fun e => "# " ++ e.handler ++ " 接口测试")
    ++ ["## 注意事项"]

/-- The fences around this many examples. -/
def fences (n : Nat) : List String := (List.replicate n ["```bash", "```"]).flatten

theorem fences_add (m n : Nat) : fences (m + n) = fences m ++ fences n := by
  rw [fences, ← List.replicate_append_replicate, List.flatten_append, fences, fences]

/-- There are endpoints exactly if there is any to be counted. -/
theorem hasEndpoints_iff (p : Profile) : p.hasEndpoints = true ↔ 0 < p.endpointCount := by
  rw [Profile.hasEndpoints, Profile.endpointCount, List.length_pos_iff, ne_eq,
    List.flatMap_eq_nil_iff]
  simp

theorem filter_isHeading_endpointsMarks (number : Nat) (es : List Endpoint) :
    (endpointsMarks number es).filter (isHeading ·.toList) =
      es.mapIdx fun i e => "#### " ++ toString (number + i) ++ ". " ++ e.handler ++ " 方法" := by
  induction es generalizing number with
  | nil => rfl
  | cons e es ih =>
      rw [endpointsMarks_cons, List.filter_append, ih, List.mapIdx_cons]
      simp [endpointMarks, isHeading, Nat.add_assoc, Nat.add_comm 1]

theorem filter_isFence_endpointsMarks (number : Nat) (es : List Endpoint) :
    (endpointsMarks number es).filter (isFence ·.toList) = fences es.length := by
  induction es generalizing number with
  | nil => rfl
  | cons e es ih =>
      rw [endpointsMarks_cons, List.filter_append, ih, List.length_cons, Nat.add_comm, fences_add]
      simp [endpointMarks, isFence, List.isPrefixOf, fences]

theorem filter_isHeading_controllerMarks (c : Controller) :
    (controllerMarks c).filter (isHeading ·.toList) = controllerOutline c := by
  rw [controllerMarks, controllerOutline]
  cases h : c.endpoints with
  | nil => rfl
  | cons e es =>
      -- The endpoints are counted from zero and numbered from one on.
      have hheadings := filter_isHeading_endpointsMarks 1 (e :: es)
      simp only [Nat.add_comm 1] at hheadings
      rw [if_neg (by simp), ← hheadings]
      exact List.filter_cons_of_pos (by simp [isHeading])

theorem filter_isFence_controllerMarks (cs : List Controller) :
    (cs.flatMap controllerMarks).filter (isFence ·.toList) =
      fences (cs.flatMap (·.endpoints)).length := by
  induction cs with
  | nil => rfl
  | cons c cs ih =>
      have hc : (controllerMarks c).filter (isFence ·.toList) = fences c.endpoints.length := by
        rw [controllerMarks]
        cases h : c.endpoints with
        | nil => rfl
        | cons e es =>
            rw [← filter_isFence_endpointsMarks 1 (e :: es)]
            exact List.filter_cons_of_neg (by simp [isFence, List.isPrefixOf])
      rw [List.flatMap_cons, List.filter_append, hc, ih, List.flatMap_cons, List.length_append,
        fences_add]

theorem filter_isHeading_commandMarks (cs : List Controller) :
    (cs.flatMap commandMarks).filter (isHeading ·.toList) =
      (cs.filterMap (·.endpoints.head?)).map fun e => "# " ++ e.handler ++ " 接口测试" := by
  induction cs with
  | nil => rfl
  | cons c cs ih =>
      rw [List.flatMap_cons, List.filter_append, ih, List.filterMap_cons, commandMarks]
      cases c.endpoints.head? <;> simp [isHeading]

theorem filter_isFence_commandMarks (cs : List Controller) :
    (cs.flatMap commandMarks).filter (isFence ·.toList) =
      fences (cs.filterMap (·.endpoints.head?)).length := by
  induction cs with
  | nil => rfl
  | cons c cs ih =>
      rw [List.flatMap_cons, List.filter_append, ih, List.filterMap_cons, commandMarks]
      cases c.endpoints.head? with
      | none => rfl
      | some e =>
          rw [List.length_cons, Nat.add_comm, fences_add]
          simp [isFence, List.isPrefixOf, fences]

theorem filter_isHeading_marks (p : Profile) :
    (marks p).filter (isHeading ·.toList) = outline p := by
  have hinterface : (when p.hasEndpoints
      ("## 接口文档" :: p.controllers.flatMap controllerMarks)).filter (isHeading ·.toList) =
        if 0 < p.endpointCount then "## 接口文档" :: p.controllers.flatMap controllerOutline
        else [] := by
    simp only [when, hasEndpoints_iff]
    split
    · rw [List.filter_cons_of_pos (by simp [isHeading]), List.filter_flatMap]
      simp only [filter_isHeading_controllerMarks]
    · rfl
  have htests : (testMarks p).filter (isHeading ·.toList) = ["## 测试指导"]
      ++ (if p.requestFile.isSome then ["### 使用 HTTP 文件测试"] else [])
      ++ (if p.controllers = [] then []
          else "### 使用 curl 测试" ::
            (shownEndpoints p).map fun e => "# " ++ e.handler ++ " 接口测试") := by
    rw [testMarks, List.filter_append]
    -- The request file and the commands have a heading each.
    congr 1
    · cases p.requestFile <;> simp [when, isHeading]
    · rw [shownEndpoints, ← filter_isHeading_commandMarks]
      cases p.controllers with
      | nil => rfl
      | cons c cs =>
          rw [if_neg (by simp)]
          exact List.filter_cons_of_pos (by simp [isHeading])
  simp only [marks, outline, List.filter_append, hinterface, htests]
  simp [isHeading]

theorem filter_isFence_marks (p : Profile) :
    (marks p).filter (isFence ·.toList) = fences (p.endpointCount + (shownEndpoints p).length) := by
  have hinterface : (when p.hasEndpoints
      ("## 接口文档" :: p.controllers.flatMap controllerMarks)).filter (isFence ·.toList) =
        fences p.endpointCount := by
    simp only [when, hasEndpoints_iff]
    split
    · rw [List.filter_cons_of_neg (by simp [isFence, List.isPrefixOf]),
        filter_isFence_controllerMarks, Profile.endpointCount]
    · next hnone =>
      rw [Nat.eq_zero_of_not_pos hnone]
      rfl
  have htests : (testMarks p).filter (isFence ·.toList) = fences (shownEndpoints p).length := by
    -- The request file is named outside of any fence.
    have hrequests : ("## 测试指导" :: when p.requestFile.isSome
        ["### 使用 HTTP 文件测试"]).filter (isFence ·.toList) = [] := by
      cases p.requestFile <;> simp [when, isFence, List.isPrefixOf]
    rw [testMarks, List.filter_append, hrequests, List.nil_append, shownEndpoints,
      ← filter_isFence_commandMarks]
    cases p.controllers with
    | nil => rfl
    | cons c cs => exact List.filter_cons_of_neg (by simp [isFence, List.isPrefixOf])
  simp only [marks, List.filter_append, hinterface, htests, fences_add]
  simp [isFence, List.isPrefixOf]

/-- A README has just the headings that belong to what the module is made of, in this order, and
just the fences around its examples, of which there is one for each endpoint and one for each
command. No text of the module makes or hides one of them, if it is on one line and the description
begins neither as a heading nor as a fence. -/
theorem outline_document (t : Timestamp) (ha : '\n' ∉ a.baseUrl.toList) (hp : p.IsOneLine)
    (hheading : isHeading p.describe.toList = false) (hfence : isFence p.describe.toList = false) :
    (lines (document a t p).toList).filter isHeading = (outline p).map String.toList ∧
      (lines (document a t p).toList).filter isFence =
        (fences (p.endpointCount + (shownEndpoints p).length)).map String.toList ∧
      (p.hasEndpoints = true ↔ 0 < p.endpointCount) := by
  have hmarks := filter_isMark_documentLines a t hheading hfence
  -- What is looked for is among the marks, and these are known section by section.
  have hamong : ∀ looked : Line → Bool, (∀ l, looked l.toList = true → isMark l = true) →
      looked [] = false → (lines (document a t p).toList).filter looked =
        ((marks p).filter (looked ·.toList)).map String.toList := by
    intro looked hlooked hnil
    rw [lines_document t ha hp, List.filter_append, List.filter_map, ← hmarks, List.filter_filter,
      List.filter_cons_of_neg (by simp [hnil]), List.filter_nil, List.append_nil]
    congr 1
    apply List.filter_congr
    intro l hl
    show looked l.toList = (looked l.toList && isMark l)
    cases h : looked l.toList with
    | false => rfl
    | true => exact (hlooked l h).symm
  refine ⟨?_, ?_, hasEndpoints_iff p⟩
  · rw [hamong isHeading (by simp +contextual [isMark]) rfl, filter_isHeading_marks]
  · rw [hamong isFence (by simp +contextual [isMark]) rfl, filter_isFence_marks]

/-- The headings of a module whose second controller has no endpoint: no command is shown for the
third one. -/
theorem outline_document_chat :
    let ask : Endpoint := {
      handler := "chat", path := "/chat", method := .get
      parameters := [{ name := "q", defaultValue := "#" }], summary := "# Title" }
    let chat : Profile := {
      name := "chat", description := some "Chat #1"
      controllers := [
        { name := "Chat", basePath := "", endpoints := [ask, ask] },
        { name := "Empty", basePath := "", endpoints := [] },
        { name := "Last", basePath := "", endpoints := [ask] }] }
    let stamp : Timestamp :=
      { year := 2024, month := 5, day := 1, hour := 12, minute := 30, second := 45 }
    (lines (document {} stamp chat).toList).filter isHeading =
      ["# Chat 模块", "## 模块说明", "## 接口文档", "### Chat 接口", "#### 1. chat 方法",
        "#### 2. chat 方法", "### Last 接口", "#### 1. chat 方法", "## 技术实现", "### 核心组件",
        "### 配置要点", "## 测试指导", "### 使用 curl 测试", "# chat 接口测试",
        "## 注意事项"].map String.toList ∧
      ((lines (document {} stamp chat).toList).filter isFence).length = 8 := by
  intro ask chat stamp
  have hask : ask.IsOneLine := ⟨by decide, by decide, by simp [ask], by decide⟩
  have hchat : chat.IsOneLine := {
    name := by decide
    description := by decide
    controllers := by simp [chat]
    endpoints := by simp [chat, hask]
    dependencies := by simp [chat]
    requestFile := by simp [chat] }
  have h := outline_document stamp (a := {}) (by decide) hchat (by decide) (by decide)
  refine ⟨h.1.trans ?_, ?_⟩
  · decide
  · rw [h.2.1]
    decide

end Readme

end ModuleReadme
