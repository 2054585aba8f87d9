import ModuleReadme.Json
import ModuleReadme.Proofs.Json.Reader
import ModuleReadme.Proofs.Text.Display

/-!
# Decoding a dump

What a profile is dumped as can be decoded: each record is an object whose members are looked up by
their names. A dump therefore tells everything about a profile (`dump_lossless`), and the only thing
that keeps a profile from being dumped is a path that is no text.
-/

namespace ModuleReadme

/-!
## Decoding

A decoder looks up members by name, in whatever order they come, and passes over members that it
does not know. It fails if a member is missing or of another kind than expected.
-/

/-! ### Parts of values -/

namespace Json

def member? (name : String) : Json → Option Json
  | object members => members.lookup name
  | _ => none

def text? : Json → Option String
  | string text => some text
  | _ => none

def optionalText? : Json → Option (Option String)
  | null => some none
  | string text => some (some text)
  | _ => none

def items? {α : Type} (decode : Json → Option α) : Json → Option (List α)
  | array items => items.mapM decode
  | _ => none

end Json

/-! ### Records -/

def HttpMethod.ofName? (name : String) : Option HttpMethod :=
  [get, post, put, delete, patch].find? fun method => method.name == name

def Parameter.ofJson? (j : Json) : Option Parameter := do
  let name ← (j.member? "name").bind Json.text?
  let defaultValue ← (j.member? "default_value").bind Json.text?
  return { name, defaultValue }

def Endpoint.ofJson? (j : Json) : Option Endpoint := do
  let handler ← (j.member? "handler_name").bind Json.text?
  let path ← (j.member? "path").bind Json.text?
  let method ← ((j.member? "method").bind Json.text?).bind HttpMethod.ofName?
  let parameters ← (j.member? "parameters").bind (Json.items? Parameter.ofJson?)
  let summary ← (j.member? "doc_summary").bind Json.text?
  return { handler, path, method, parameters, summary }

def Controller.ofJson? (j : Json) : Option Controller := do
  let name ← (j.member? "display_name").bind Json.text?
  let basePath ← (j.member? "base_path").bind Json.text?
  let endpoints ← (j.member? "endpoints").bind (Json.items? Endpoint.ofJson?)
  return { name, basePath, endpoints }

def Manifest.ofJson? (j : Json) : Option Manifest := do
  let artifactId ← (j.member? "artifact_id").bind Json.optionalText?
  let dependencies ← (j.member? "dependencies").bind (Json.items? Json.text?)
  return { artifactId, dependencies }

def Profile.ofJson? (j : Json) : Option Profile := do
  let name ← (j.member? "name").bind Json.text?
  let description ← (j.member? "prior_description").bind Json.optionalText?
  let controllers ← (j.member? "controllers").bind (Json.items? Controller.ofJson?)
  let manifest ← (j.member? "manifest").bind Manifest.ofJson?
  let requestFile ← (j.member? "http_file").bind Json.optionalText?
  let mainClass ← (j.member? "main_class").bind Json.optionalText?
  let configFiles ← (j.member? "config_files").bind (Json.items? Json.text?)
  return { name, description, controllers, manifest, requestFile, mainClass,
           configFiles := configFiles.map Path.ofString }

/-!
## Records that are decoded

Each lemma undoes one encoder. Those on parts of a record are simplification rules, so a record is
decoded by simplifying.
-/

@[simp] theorem Json.member?_cons_self (name : String) (value : Json) (members : List (String × Json)) :
    (object ((name, value) :: members)).member? name = some value :=
  List.lookup_cons_self

@[simp] theorem Json.member?_cons_of_ne {name other : String} (h : name ≠ other) (value : Json)
    (members : List (String × Json)) :
    (object ((other, value) :: members)).member? name = (object members).member? name := by
  rw [member?, List.lookup_cons, beq_false_of_ne h]
  rfl

@[simp] theorem Json.text?_string (text : String) : (string text).text? = some text := rfl

@[simp] theorem Json.optionalText?_ofOption (text : Option String) :
    (Json.ofOption text).optionalText? = some text := by
  cases text <;> rfl

/-- Items are decoded if each of them is. -/
@[simp] theorem Json.items?_array_map {α : Type} {encode : α → Json} {decode : Json → Option α}
    (h : ∀ a, decode (encode a) = some a) (l : List α) :
    (array (l.map encode)).items? decode = some l := by
  induction l with
  | nil => rfl
  | cons a l ih =>
      rw [items?] at ih ⊢
      simp [h, ih]

@[simp] theorem Json.items?_array_texts (texts : List String) :
    (array (texts.map string)).items? text? = some texts :=
  items?_array_map text?_string texts

@[simp] theorem HttpMethod.ofName?_name (method : HttpMethod) :
    ofName? method.name = some method := by
  cases method <;> decide

@[simp] theorem Parameter.ofJson?_json (p : Parameter) : ofJson? p.json = some p := by
  simp [ofJson?, json]

@[simp] theorem Endpoint.ofJson?_json (e : Endpoint) : ofJson? e.json = some e := by
  simp [ofJson?, json]

@[simp] theorem Controller.ofJson?_json (c : Controller) : ofJson? c.json = some c := by
  simp [ofJson?, json]

@[simp] theorem Manifest.ofJson?_json (m : Manifest) : ofJson? m.json = some m := by
  simp [ofJson?, json]

/-!
## Paths

A path is bytes and JSON is text, so paths are where an encoder can fail.
-/

theorem Path.toString?_eq_some_iff {path : Path} {text : String} :
    path.toString? = some text ↔ path = ofString text := by
  rw [toString?, Text.decode?_eq_some_iff]
  cases path
  simp [ofString]

theorem Path.texts?_eq_some_iff {paths : List Path} {texts : List String} :
    texts? paths = some texts ↔ paths = texts.map ofString := by
  induction paths generalizing texts with
  | nil => simp [texts?, eq_comm]
  | cons path paths ih =>
      rw [texts?] at *
      cases texts with
      | nil => simp [List.mapM_cons, Option.bind_eq_some_iff]
      | cons text texts =>
          rw [List.map_cons, List.cons.injEq, ← toString?_eq_some_iff, ← ih]
          simp [List.mapM_cons, Option.bind_eq_some_iff]

/-- Paths are texts if each of them is a text. -/
theorem Path.exists_texts?_iff {paths : List Path} :
    (∃ texts, texts? paths = some texts) ↔ ∀ path ∈ paths, ∃ text, path = ofString text := by
  simp only [texts?_eq_some_iff]
  induction paths with
  | nil => simp
  | cons path paths ih =>
      rw [List.forall_mem_cons, ← ih]
      constructor
      · -- The texts of a list that is not empty are not none.
        rintro ⟨_ | ⟨text, texts⟩, h⟩
        · cases h
        · obtain ⟨hpath, hpaths⟩ := List.cons.inj h
          exact ⟨⟨text, hpath⟩, texts, hpaths⟩
      · rintro ⟨⟨text, rfl⟩, texts, rfl⟩
        exact ⟨text :: texts, rfl⟩

/-! ## Profiles -/

theorem Profile.ofJson?_of_json? {p : Profile} {j : Json} (h : p.json? = some j) :
    ofJson? j = some p := by
  obtain ⟨texts, htexts, rfl⟩ := Option.map_eq_some_iff.mp h
  have hpaths := Path.texts?_eq_some_iff.mp htexts
  simp [ofJson?, ← hpaths]

theorem Profile.dump_eq_ok_iff {p : Profile} {text : String} :
    p.dump = .ok text ↔ ∃ j, p.json? = some j ∧ j.text = text := by
  rw [dump]
  cases p.json? <;> simp

/-- A profile is dumped exactly if the paths of its configuration files are text; otherwise it
cannot be serialized. The dump is a JSON text from which the profile can be decoded, so that no
other profile is dumped as the same text. -/
theorem Profile.dump_lossless (p : Profile) :
    ((∃ text, p.dump = .ok text) ↔ ∀ path ∈ p.configFiles, ∃ text, path = .ofString text) ∧
      ((¬∀ path ∈ p.configFiles, ∃ text, path = .ofString text) → p.dump = .error .pathIsNoText) ∧
      ∀ text, p.dump = .ok text →
        (∃ j, Json.IsText text.toList j ∧ Json.ofText? text.toList = some j ∧ ofJson? j = some p) ∧
          ∀ q : Profile, q.dump = .ok text → q = p := by
  have hpaths : (∃ j, p.json? = some j) ↔
      ∀ path ∈ p.configFiles, ∃ text, path = .ofString text := by
    rw [← Path.exists_texts?_iff, json?]
    cases Path.texts? p.configFiles <;> simp
  have hdecoded : ∀ {q : Profile} {text : String}, q.dump = .ok text →
      ∃ j, Json.IsText text.toList j ∧ Json.ofText? text.toList = some j ∧ ofJson? j = some q := by
    intro q text h
    obtain ⟨j, hj, rfl⟩ := dump_eq_ok_iff.mp h
    have htext := Json.isText_text j
    exact ⟨j, htext, Json.ofText?_of_isText htext, ofJson?_of_json? hj⟩
  refine ⟨?_, ?_, ?_⟩
  · rw [← hpaths]
    simp only [dump_eq_ok_iff]
    constructor
    · rintro ⟨text, j, hj, -⟩
      exact ⟨j, hj⟩
    · rintro ⟨j, hj⟩
      exact ⟨j.text, j, hj, rfl⟩
  · intro hno
    have hnone : p.json? = none := by
      rw [← hpaths] at hno
      simpa [Option.eq_none_iff_forall_ne_some] using hno
    rw [dump, hnone]
  · intro text h
    refine ⟨hdecoded h, ?_⟩
    -- Both profiles are decoded from the one value that the text stands for.
    intro q hq
    obtain ⟨j, -, hj, hp⟩ := hdecoded h
    obtain ⟨j', -, hj', hq⟩ := hdecoded hq
    rw [Option.some.inj (hj.symm.trans hj')] at hp
    exact Option.some.inj (hq.symm.trans hp)

/-- What looks like JSON in a text, and what has to be escaped, comes back as it was. -/
theorem Profile.dump_lossless_quoted :
    let quoted : Profile := {
      name := "\",\"name\":null\x7d", description := some "", requestFile := some "\\u0041\t\x01/é𝄞"
      controllers := [{ name := "C", basePath := "", endpoints := [
        { handler := "h", path := "/", method := .patch, summary := "\n"
          parameters := [{ name := "q", defaultValue := "[]" }] }] }]
      configFiles := [.ofString "a\\.yml"] }
    let broken : Profile := { quoted with configFiles := [⟨[0xFF]⟩] }
    (∃ text, quoted.dump = .ok text ∧ (Json.ofText? text.toList).bind ofJson? = some quoted) ∧
      broken.dump = .error .pathIsNoText := by
  intro quoted broken
  constructor
  · obtain ⟨text, htext⟩ := (dump_lossless quoted).1.mpr (by simp [quoted])
    obtain ⟨⟨j, -, hj, hquoted⟩, -⟩ := (dump_lossless quoted).2.2 text htext
    exact ⟨text, htext, by rw [hj, Option.bind_some, hquoted]⟩
  · refine (dump_lossless broken).2.1 ?_
    intro hall
    obtain ⟨text, htext⟩ := hall ⟨[0xFF]⟩ (by simp [broken])
    -- The path is no text: no character begins with this byte.
    have hnone : Text.decode? [0xFF] = none := by decide
    rw [Text.decode?_eq_some_iff.mpr (congrArg Path.bytes htext)] at hnone
    cases hnone

end ModuleReadme
