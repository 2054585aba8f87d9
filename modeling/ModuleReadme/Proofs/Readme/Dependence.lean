import ModuleReadme.Proofs.Readme.Outline
import Mathlib.Data.List.Forall2

/-!
# What a README depends on

A README shows less than what is known about a module, and all that is not shown may be different
without changing it: two modules that are alike in what is shown have the same README
(`dependence_render`). The method of an endpoint is shown in three places, and in all of them it
depends on the appearance; so the appearances are compared together with the endpoints, and one
lemma for each section serves two modules as well as two appearances.
-/

namespace ModuleReadme

open Readme

/-!
## Modules that are alike

The relation says field by field what has to be the same. A field that is missing here may be
different, and for methods the relation is a parameter.
-/

/-- Endpoints that differ in nothing but their methods, which are related by `R`. -/
structure Endpoint.AlikeUpTo (R : HttpMethod → HttpMethod → Prop) (e f : Endpoint) : Prop where
  handler : e.handler = f.handler
  path : e.path = f.path
  parameters : e.parameters = f.parameters
  summary : e.summary = f.summary
  method : R e.method f.method

/-- Controllers of the same name with the same endpoints up to their methods. The base paths may be
different. -/
structure Controller.AlikeUpTo (R : HttpMethod → HttpMethod → Prop) (c d : Controller) : Prop where
  name : c.name = d.name
  endpoints : List.Forall₂ (Endpoint.AlikeUpTo R) c.endpoints d.endpoints

/-- Modules that differ in nothing but the application class, the configuration files, the artifact
id, the dependencies after the fifth, and the base paths and methods of their controllers. -/
structure Profile.AlikeUpTo (R : HttpMethod → HttpMethod → Prop) (p q : Profile) : Prop where
  name : p.name = q.name
  description : p.description = q.description
  controllers : List.Forall₂ (Controller.AlikeUpTo R) p.controllers q.controllers
  dependencies : p.manifest.dependencies.take 5 = q.manifest.dependencies.take 5
  requestFile : p.requestFile = q.requestFile

/-- Methods of which the one appearance shows the same as the other. -/
def Appearance.ShowAlike (a b : Appearance) (m n : HttpMethod) : Prop :=
  (if a.declaredMethods then m else .get) = if b.declaredMethods then n else .get

namespace Readme

variable {a b : Appearance} {e f : Endpoint} {es fs : List Endpoint} {c d : Controller}
  {cs ds : List Controller} {p q : Profile}

/-! ## Requests

An example request shows the method and the URL, and the URL has the base URL in front.
-/

theorem method_congr (h : e.AlikeUpTo (a.ShowAlike b) f) : a.method e = b.method f := h.method

theorem url_congr (hbase : a.baseUrl = b.baseUrl) (h : e.AlikeUpTo (a.ShowAlike b) f) :
    a.url e = b.url f := by
  rw [Appearance.url, Appearance.url, hbase, h.path, h.parameters]

theorem curl_congr (hbase : a.baseUrl = b.baseUrl) (h : e.AlikeUpTo (a.ShowAlike b) f) :
    a.curl e = b.curl f := by
  rw [Appearance.curl, Appearance.curl, method_congr h, url_congr hbase h]

/-!
## Sections

Each section is made from what is the same in both modules. Lists of endpoints and controllers are
gone through together, along the relation between their members.
-/

/-! ### Endpoints -/

theorem endpointSection_congr (hbase : a.baseUrl = b.baseUrl)
    (h : e.AlikeUpTo (a.ShowAlike b) f) (number : Nat) :
    endpointSection a number e = endpointSection b number f := by
  have hpurpose : purpose e = purpose f := by rw [purpose, purpose, h.summary, h.handler]
  rw [endpointSection, endpointSection, method_congr h, url_congr hbase h, hpurpose, h.handler,
    h.path, h.parameters]

theorem endpointSections_congr (hbase : a.baseUrl = b.baseUrl)
    (h : List.Forall₂ (Endpoint.AlikeUpTo (a.ShowAlike b)) es fs) (number : Nat) :
    endpointSections a number es = endpointSections b number fs := by
  induction h generalizing number with
  | nil => rfl
  | cons he _ ih =>
      rw [endpointSections, endpointSections, endpointSection_congr hbase he, ih]

theorem isEmpty_congr {α β : Type} {R : α → β → Prop} {l : List α} {m : List β}
    (h : List.Forall₂ R l m) : l.isEmpty = m.isEmpty := by
  cases h <;> rfl

theorem controllerSection_congr (hbase : a.baseUrl = b.baseUrl)
    (h : c.AlikeUpTo (a.ShowAlike b) d) : controllerSection a c = controllerSection b d := by
  rw [controllerSection, controllerSection, isEmpty_congr h.endpoints, h.name,
    endpointSections_congr hbase h.endpoints]

theorem curlSection_congr (hbase : a.baseUrl = b.baseUrl) (h : c.AlikeUpTo (a.ShowAlike b) d) :
    curlSection a c = curlSection b d := by
  have hendpoints := h.endpoints
  rw [curlSection, curlSection]
  generalize c.endpoints = es, d.endpoints = fs at hendpoints
  cases hendpoints with
  | nil => rfl
  | cons he _ => simp only [he.handler, curl_congr hbase he]

/-! ### Controllers -/

/-- What is written controller by controller is the same if it is so for each of them. -/
theorem flatMap_congr_of_forall₂ {α β γ : Type} {R : α → β → Prop} {l : List α} {m : List β}
    {f : α → List γ} {g : β → List γ} (h : List.Forall₂ R l m) (hfg : ∀ x y, R x y → f x = g y) :
    l.flatMap f = m.flatMap g := by
  induction h with
  | nil => rfl
  | cons hxy _ ih => rw [List.flatMap_cons, List.flatMap_cons, hfg _ _ hxy, ih]

theorem map_name_congr {R : HttpMethod → HttpMethod → Prop}
    (h : List.Forall₂ (Controller.AlikeUpTo R) cs ds) : cs.map (·.name) = ds.map (·.name) := by
  induction h with
  | nil => rfl
  | cons hc _ ih => rw [List.map_cons, List.map_cons, hc.name, ih]

theorem describe_congr {R : HttpMethod → HttpMethod → Prop} (h : p.AlikeUpTo R q) :
    p.describe = q.describe := by
  -- Of the controllers the description takes their number and what their names contribute.
  have hknown : p.controllers.filterMap (fun c => lookup? features c.name) =
      q.controllers.filterMap fun c => lookup? features c.name := by
    have hnames := congrArg (List.filterMap (lookup? features)) (map_name_congr h.controllers)
    rwa [List.filterMap_map, List.filterMap_map] at hnames
  rw [Profile.describe, Profile.describe, hknown, h.description, h.name,
    h.controllers.length_eq, isEmpty_congr h.controllers]

theorem introduction_congr {R : HttpMethod → HttpMethod → Prop} (h : p.AlikeUpTo R q) :
    introduction p = introduction q := by
  rw [introduction, introduction, h.name, describe_congr h]

theorem hasEndpoints_congr {R : HttpMethod → HttpMethod → Prop} (h : p.AlikeUpTo R q) :
    p.hasEndpoints = q.hasEndpoints := by
  have hcontrollers := h.controllers
  rw [Profile.hasEndpoints, Profile.hasEndpoints]
  generalize p.controllers = cs, q.controllers = ds at hcontrollers
  induction hcontrollers with
  | nil => rfl
  | cons hc _ ih => rw [List.any_cons, List.any_cons, isEmpty_congr hc.endpoints, ih]

theorem interface_congr (hbase : a.baseUrl = b.baseUrl) (h : p.AlikeUpTo (a.ShowAlike b) q) :
    interface a p = interface b q := by
  rw [interface, interface, hasEndpoints_congr h,
    flatMap_congr_of_forall₂ h.controllers fun _ _ => controllerSection_congr hbase]

theorem implementation_congr {R : HttpMethod → HttpMethod → Prop} (h : p.AlikeUpTo R q) :
    implementation p = implementation q := by
  rw [implementation, implementation, isEmpty_congr h.controllers, listedDependencies,
    h.dependencies]

theorem testing_congr (hbase : a.baseUrl = b.baseUrl) (h : p.AlikeUpTo (a.ShowAlike b) q) :
    testing a p = testing b q := by
  have hshown := List.forall₂_take shownControllers h.controllers
  rw [testing, testing, h.requestFile, isEmpty_congr h.controllers,
    flatMap_congr_of_forall₂ hshown fun _ _ => curlSection_congr hbase]

/-!
## The README

Three instances of one lemma: other modules, other appearances, and another time.
-/

theorem documentLines_congr (hbase : a.baseUrl = b.baseUrl) (t : Timestamp)
    (h : p.AlikeUpTo (a.ShowAlike b) q) : documentLines a t p = documentLines b t q := by
  rw [documentLines, documentLines, introduction_congr h, interface_congr hbase h,
    implementation_congr h, testing_congr hbase h]

theorem value_render (a : Appearance) (t : Timestamp) (p : Profile) :
    (render a t p).value = document a t p := by
  simp only [render, Logged.value_bind, Logged.value_pure]

/-- The README and what is logged about it are made from what is shown of the module. -/
theorem render_congr (hbase : a.baseUrl = b.baseUrl) (t : Timestamp)
    (h : p.AlikeUpTo (a.ShowAlike b) q) : render a t p = render b t q := by
  rw [render, render, document, document, documentLines_congr hbase t h, h.name,
    h.controllers.length_eq]

/-- A module is alike to itself if its methods are. -/
theorem alikeUpTo_self {R : HttpMethod → HttpMethod → Prop}
    (h : ∀ c ∈ p.controllers, ∀ e ∈ c.endpoints, R e.method e.method) : p.AlikeUpTo R p := by
  refine ⟨rfl, rfl, List.forall₂_same.mpr fun c hc => ⟨rfl, ?_⟩, rfl, rfl⟩
  exact List.forall₂_same.mpr fun e he => ⟨rfl, rfl, rfl, rfl, h c hc e he⟩

/-- The time is on the last line, and only there. -/
theorem document_footer (a : Appearance) (p : Profile) :
    ∃ front : String, front.toList.getLast? = some '\n' ∧
      ∀ t, document a t p = front ++ "*此 README.md 由自动化工具生成于 " ++ t.text ++ "*\n" := by
  let above := introduction p ++ interface a p ++ implementation p ++ testing a p ++ notes
  refine ⟨String.join ((above ++ ["---", ""]).map (· ++ "\n")), by simp, fun t => ?_⟩
  have hlines : documentLines a t p =
      (above ++ ["---", ""]) ++ ["*此 README.md 由自动化工具生成于 " ++ t.text ++ "*"] :=
    (List.append_assoc above ["---", ""] _).symm
  have hlast : String.join (["*此 README.md 由自动化工具生成于 " ++ t.text ++ "*"].map (· ++ "\n")) =
      "*此 README.md 由自动化工具生成于 " ++ t.text ++ "*\n" := by
    simp [String.append_assoc]
  rw [document, hlines, List.map_append, String.join_append, hlast]
  simp only [String.append_assoc]

/-- A README depends on nothing but what it documents. It is the same for modules that differ only
in what is not shown, to which the methods of endpoints belong if declared methods are not shown;
whether these are shown makes no difference if all of them are `GET`; and the time is on the last
line only, with nothing but an asterisk behind it. -/
theorem dependence_render (a : Appearance) (p : Profile) :
    (∀ t q, p.AlikeUpTo (fun m n => a.declaredMethods = true → m = n) q →
      render a t p = render a t q) ∧
    ((∀ c ∈ p.controllers, ∀ e ∈ c.endpoints, e.method = .get) → ∀ t,
      render { a with declaredMethods := true } t p =
        render { a with declaredMethods := false } t p) ∧
    ∃ front : String, front.toList.getLast? = some '\n' ∧ ∀ t, '\n' ∉ t.text.toList ∧
      (render a t p).value = front ++ "*此 README.md 由自动化工具生成于 " ++ t.text ++ "*\n" := by
  refine ⟨fun t q h => ?_, fun h t => ?_, ?_⟩
  · -- Of one appearance, methods are shown alike if they are the same or not shown.
    have hshown : (fun m n => a.declaredMethods = true → m = n) = a.ShowAlike a := by
      funext m n
      rw [Appearance.ShowAlike]
      cases a.declaredMethods <;> simp
    rw [hshown] at h
    exact render_congr rfl t h
  · have hshown : p.AlikeUpTo (Appearance.ShowAlike { a with declaredMethods := true }
        { a with declaredMethods := false }) p :=
      alikeUpTo_self fun c hc e he => h c hc e he
    exact render_congr (by rfl) t hshown
  · obtain ⟨front, hlast, hfront⟩ := document_footer a p
    refine ⟨front, hlast, fun t => ⟨not_mem_timestamp t, ?_⟩⟩
    rw [value_render, hfront]

/-- Two modules of which different things are known and the same README is made, as long as declared
methods are not shown. All methods of the second one are `GET`. -/
theorem dependence_render_undeclared :
    let chat (base : String) (method : HttpMethod) : Controller := {
      name := "ChatController", basePath := base
      endpoints := [{ handler := "chat", path := "/ai/chat", method, parameters := [], summary := "" }] }
    let p : Profile := {
      name := "chat", controllers := [chat "/ai" .post]
      manifest := { artifactId := some "chat", dependencies := ["a", "b", "c", "d", "e", "f", "g"] }
      mainClass := some "ChatApplication", configFiles := [Path.ofString "application.yml"] }
    let q : Profile := {
      name := "chat", controllers := [chat "/ai/" .get]
      manifest := { dependencies := ["a", "b", "c", "d", "e", "h"] } }
    let stamp : Timestamp :=
      { year := 2024, month := 5, day := 1, hour := 12, minute := 30, second := 45 }
    p.AlikeUpTo (fun m n => ({} : Appearance).declaredMethods = true → m = n) q ∧
      render {} stamp p = render {} stamp q ∧
      (∀ c ∈ q.controllers, ∀ e ∈ c.endpoints, e.method = .get) ∧
      render { declaredMethods := true } stamp q = render { declaredMethods := false } stamp q := by
  intro chat p q stamp
  have halike : p.AlikeUpTo (fun m n => ({} : Appearance).declaredMethods = true → m = n) q := {
    name := rfl
    description := rfl
    controllers := .cons ⟨rfl, .cons ⟨rfl, rfl, rfl, rfl, by simp⟩ .nil⟩ .nil
    dependencies := rfl
    requestFile := rfl }
  have hget : ∀ c ∈ q.controllers, ∀ e ∈ c.endpoints, e.method = .get := by simp [q, chat]
  exact ⟨halike, (dependence_render {} p).1 stamp q halike, hget,
    (dependence_render {} q).2.1 hget stamp⟩

end Readme

end ModuleReadme
