import ModuleReadme.Proofs.Manifest.Appending

/-!
# Declared dependencies

A manifest that declares dependencies consists of dependency elements with other text between them
(`declaration`). The search finds the artifact ids of all of them, in order and as often as they
are declared: it takes a dependency through its own closing tag, whatever comes next
(`Dependency.dependency?_eq`), and begins no match in between. The artifact id of the module is the
one in the first element of the text that holds one, be it within a dependency
(`ofText_declaration`).
-/

namespace ModuleReadme.Manifest

open Text

/-!
## Declarations

The conditions on the parts of a declaration are those under which the pieces of the text are what
they look like: nothing begins too early, and nothing ends too early.
-/

/-- Text between dependencies, in which none begins. -/
structure Gap where
  text : List Char
  not_opening : ¬ dependencyOpening <:+: text

/-- A dependency. In front of its artifact id there is no other one, and it ends with the first
closing tag behind that. Exclusions behind the id may hold artifact ids of their own. -/
structure Dependency where
  pre : List Char
  id : List Char
  idElement : List Char
  post : List Char
  pre_plain : ¬ idOpening <:+: pre
  isIdElement : IsIdElement id idElement
  post_open : ¬ dependencyClosing <:+: post

def Dependency.text (d : Dependency) : List Char :=
  dependencyOpening ++ (d.pre ++ (d.idElement ++ (d.post ++ dependencyClosing)))

/-- A text with dependencies, each with a gap in front, and a gap at the end. -/
def declaration (dependencies : List (Gap × Dependency)) (last : Gap) : List Char :=
  dependencies.flatMap (fun (g, d) => g.text ++ d.text) ++ last.text

/-- The first artifact id element of a text, in front of which no other one begins, holds `id`. -/
inductive IsFirstId (id : List Char) : List Char → Prop
  | intro {front element rest : List Char} (h : IsIdElement id element)
      (hfirst : ∀ id' front' element' rest', IsIdElement id' element' →
        front ++ (element ++ rest) = front' ++ (element' ++ rest') → front <+: front') :
      IsFirstId id (front ++ (element ++ rest))

variable {id text later rest : List Char}

/-!
## Dependencies

The list of dependencies is gone through piece by piece. Behind a gap there is a tag or the end of
the text, so that no opening tag is cut in two by the end of the gap.
-/

/-- An element begins like its opening tag. -/
theorem IsIdElement.head?_append {element : List Char} (h : IsIdElement id element)
    (rest : List Char) : (element ++ rest).head? = some '<' := by
  obtain ⟨-, -⟩ := h
  rw [List.append_assoc, List.head?_append_of_ne_nil _ (by decide)]
  decide

/-- A dependency is taken whole, whatever follows it. -/
theorem Dependency.dependency?_eq (d : Dependency) (rest : List Char) :
    dependency? (d.text ++ rest) = some (d.id, rest) := by
  have hid : leftmost idElement? (d.pre ++ (d.idElement ++
      (d.post ++ (dependencyClosing ++ rest)))) =
        some (d.id, d.post ++ (dependencyClosing ++ rest)) := by
    -- In front of the element nothing begins: neither an element nor the beginning of its tag.
    refine leftmost_append (d.isIdElement.idElement?_eq _) fun later hlater hne => ?_
    rw [idElement?_eq_bind, after?_append_eq_none hne (mt (·.trans hlater.isInfix) d.pre_plain),
      Option.bind_none]
    intro c hc
    rw [d.isIdElement.head?_append] at hc
    cases hc
    decide
  have hhead : ∀ c ∈ dependencyClosing.head?, c ∉ dependencyClosing.tail := by
    intro c hc
    cases hc
    decide
  have hclose := afterFirst?_append d.post_open hhead rest
  simp only [Dependency.text, List.append_assoc, dependency?_eq_bind, after?_append,
    Option.bind_some, hid, hclose, Option.map_some]

/-- In a gap no dependency begins, and none that ends in what follows. -/
theorem Gap.dependenciesIn_append (g : Gap) (hrest : ∀ c ∈ rest.head?, c = '<') :
    dependenciesIn (g.text ++ rest) = dependenciesIn rest := by
  rw [dependenciesIn, allMatches_append_of_none, dependenciesIn]
  intro later hlater hne
  rw [dependency?_eq_bind, after?_append_eq_none hne (mt (·.trans hlater.isInfix) g.not_opening),
    Option.bind_none]
  intro c hc
  rw [hrest c hc]
  decide

theorem Dependency.dependenciesIn_append (d : Dependency) (rest : List Char) :
    dependenciesIn (d.text ++ rest) = trim d.id :: dependenciesIn rest := by
  have hne : d.text ≠ [] := List.cons_ne_nil _ _
  rw [dependenciesIn, allMatches_append_of_some hne (d.dependency?_eq rest), List.map_cons,
    dependenciesIn]

theorem declaration_cons (g : Gap) (d : Dependency) (dependencies : List (Gap × Dependency))
    (last : Gap) :
    declaration ((g, d) :: dependencies) last =
      g.text ++ (d.text ++ declaration dependencies last) := by
  simp [declaration]

/-- The dependencies that are found are those that are declared. -/
theorem dependenciesIn_declaration (dependencies : List (Gap × Dependency)) (last : Gap) :
    dependenciesIn (declaration dependencies last) = dependencies.map fun (_, d) => trim d.id := by
  induction dependencies with
  | nil =>
      have hlast : dependenciesIn (last.text ++ []) = dependenciesIn [] :=
        last.dependenciesIn_append (by simp)
      rw [declaration, List.flatMap_nil, List.nil_append, ← List.append_nil last.text, hlast,
        dependenciesIn, allMatches, List.map_nil, List.map_nil]
  | cons piece dependencies ih =>
      obtain ⟨g, d⟩ := piece
      -- A declaration begins with a bracket, so no element of the gap runs over into it.
      have hhead : ∀ c ∈ (d.text ++ declaration dependencies last).head?, c = '<' := by
        rintro c hc
        cases hc
        rfl
      rw [declaration_cons, g.dependenciesIn_append hhead, d.dependenciesIn_append, ih,
        List.map_cons]

/-!
## The artifact id of the module

The first element is told by its position alone: it begins no later than any other one.
-/

/-- An element stands at the front of a text, and what follows it is `found.2`. -/
def IsElementAhead (found : List Char × List Char) (text : List Char) : Prop :=
  ∃ element, IsIdElement found.1 element ∧ text = element ++ found.2

theorem leftmost_idElement?_eq_none_iff :
    leftmost idElement? text = none ↔
      ∀ id front element rest, IsIdElement id element → text ≠ front ++ (element ++ rest) := by
  rw [leftmost_eq_none_iff_forall (P := IsElementAhead) idElement?_eq_some_iff]
  constructor
  · intro h id front element rest helement htext
    exact h (id, rest) front _ htext ⟨element, helement, rfl⟩
  · rintro h ⟨id, rest⟩ front _ htext ⟨element, helement, rfl⟩
    exact h id front element rest helement htext

/-- The search for elements finds the first one. -/
theorem isFirstId_iff : IsFirstId id text ↔ ∃ rest, leftmost idElement? text = some (id, rest) := by
  simp only [leftmost_eq_some_iff (P := IsElementAhead) idElement?_eq_some_iff]
  constructor
  · rintro @⟨front, element, rest, h, hfirst⟩
    refine ⟨rest, .intro ⟨element, h, rfl⟩ ?_⟩
    rintro ⟨id', rest'⟩ front' _ heq ⟨element', h', rfl⟩
    exact (hfirst id' front' element' rest' h' heq).length_le
  · rintro ⟨rest, @⟨front, _, ⟨element, h, rfl⟩, hfirst⟩⟩
    refine .intro h fun id' front' element' rest' h' heq => ?_
    have hle := hfirst (id', rest') front' _ heq ⟨element', h', rfl⟩
    exact List.prefix_of_prefix_length_le (List.prefix_append ..) ⟨_, heq.symm⟩ hle

theorem artifactIdIn_eq_some_iff {trimmed : List Char} :
    artifactIdIn text = some trimmed ↔ ∃ id, IsFirstId id text ∧ trimmed = trim id := by
  rw [artifactIdIn, Option.map_eq_some_iff]
  simp only [isFirstId_iff, Prod.exists]
  constructor
  · rintro ⟨id, rest, h, rfl⟩
    exact ⟨id, ⟨rest, h⟩, rfl⟩
  · rintro ⟨id, ⟨rest, h⟩, rfl⟩
    exact ⟨id, rest, h, rfl⟩

theorem artifactIdIn_eq_none_iff :
    artifactIdIn text = none ↔
      ∀ id front element rest, IsIdElement id element → text ≠ front ++ (element ++ rest) := by
  rw [artifactIdIn, Option.map_eq_none_iff, leftmost_idElement?_eq_none_iff]

/-- The artifact ids of the declared dependencies are found, all of them, in order and as often as
they are declared. The artifact id of the module is the first one in the text. -/
theorem ofText_declaration (dependencies : List (Gap × Dependency)) (last : Gap) :
    let text := declaration dependencies last
    let manifest := ofText (String.ofList text)
    manifest.dependencies = dependencies.map (fun (_, d) => String.ofList (trim d.id)) ∧
      (∀ name, manifest.artifactId = some name ↔
        ∃ id, IsFirstId id text ∧ name = String.ofList (trim id)) ∧
      (manifest.artifactId = none ↔
        ∀ id front element rest, IsIdElement id element → text ≠ front ++ (element ++ rest)) ∧
      (dependencies ≠ [] → manifest.artifactId.isSome) := by
  intro text manifest
  have hid : manifest.artifactId = (artifactIdIn text).map String.ofList := by
    rw [← String.toList_ofList (l := text)]
    rfl
  refine ⟨?_, ?_, ?_, ?_⟩
  · show (dependenciesIn (String.ofList text).toList).map String.ofList = _
    rw [String.toList_ofList, dependenciesIn_declaration, List.map_map]
    rfl
  · intro name
    rw [hid, Option.map_eq_some_iff]
    simp only [artifactIdIn_eq_some_iff]
    constructor
    · rintro ⟨_, ⟨id, hfirst, rfl⟩, rfl⟩
      exact ⟨id, hfirst, rfl⟩
    · rintro ⟨id, hfirst, rfl⟩
      exact ⟨_, ⟨id, hfirst, rfl⟩, rfl⟩
  · rw [hid, Option.map_eq_none_iff, artifactIdIn_eq_none_iff]
  · intro hne
    obtain ⟨⟨g, d⟩, dependencies, rfl⟩ := List.exists_cons_of_ne_nil hne
    rw [hid, Option.isSome_map, Option.isSome_iff_ne_none, Ne, artifactIdIn_eq_none_iff]
    -- The first dependency holds an element.
    intro hnone
    refine hnone d.id (g.text ++ (dependencyOpening ++ d.pre)) d.idElement
      (d.post ++ dependencyClosing ++ declaration dependencies last) d.isIdElement ?_
    simp only [text, declaration_cons, Dependency.text, List.append_assoc]

/-- The dependency `a`, without what it depends on itself as `b`. -/
def excluding : Dependency where
  pre := "<groupId>g</groupId>".toList
  id := " a ".toList
  idElement := idOpening ++ (" a ".toList ++ idClosing)
  post := "<exclusion><artifactId>b</artifactId></exclusion>".toList
  pre_plain := by decide +kernel
  isIdElement := .intro (by decide) (by decide)
  post_open := by decide +kernel

/-- A dependency that is declared twice is found twice, and what it excludes is not found. -/
theorem ofText_declaration_excluding :
    let text := "<parent><artifactId> base </artifactId></parent>" ++
      "<dependency><groupId>g</groupId><artifactId> a </artifactId>" ++
      "<exclusion><artifactId>b</artifactId></exclusion></dependency></dependency>" ++
      "<dependency><groupId>g</groupId><artifactId> a </artifactId>" ++
      "<exclusion><artifactId>b</artifactId></exclusion></dependency>"
    (∃ dependencies last, dependencies ≠ [] ∧ declaration dependencies last = text.toList) ∧
      (ofText text).dependencies = ["a", "a"] ∧ (ofText text).artifactId.isSome := by
  intro text
  let parent : Gap := ⟨"<parent><artifactId> base </artifactId></parent>".toList, by decide +kernel⟩
  let dependencies : List (Gap × Dependency) :=
    [(parent, excluding), (⟨dependencyClosing, by decide⟩, excluding)]
  let last : Gap := ⟨[], by decide⟩
  have htext : declaration dependencies last = text.toList := by
    simp only [text, String.toList_append]
    decide +kernel
  have hne : dependencies ≠ [] := List.cons_ne_nil _ _
  obtain ⟨hfound, -, -, hsome⟩ := ofText_declaration dependencies last
  rw [htext, String.ofList_toList] at hfound hsome
  -- The parent, the exclusions and the odd closing tag yield no dependency.
  refine ⟨⟨dependencies, last, hne, htext⟩, ?_, hsome hne⟩
  rw [hfound]
  decide +kernel

end ModuleReadme.Manifest
