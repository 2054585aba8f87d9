import ModuleReadme.Manifest
import ModuleReadme.Proofs.Text.Passing
import Mathlib.Data.List.TakeWhile

/-!
# Manifests that are cut off

An artifact id element is two tags with text in between that is not empty and holds no tag
(`IsIdElement`). No element begins inside of another one, so that of two elements the one that
begins later does not end earlier. This makes the search for dependencies steady
(`steady_dependency?`), whatever stands between the elements: in a manifest that is cut off
anywhere, be it inside of a tag, the dependencies are the first ones of the whole manifest
(`ofText_append`).
-/

namespace ModuleReadme.Manifest

open Text

variable {id text later rest rest' front : List Char}

/-!
## Tags

Both searches are put together from searches for tags, in a form that shows it.
-/

def idOpening : List Char := "<artifactId>".toList

def idClosing : List Char := "</artifactId>".toList

def dependencyOpening : List Char := "<dependency>".toList

def dependencyClosing : List Char := "</dependency>".toList

theorem idElement?_eq_bind (text : List Char) :
    idElement? text = (after? idOpening text).bind fun inner =>
      if (inner.takeWhile (· != '<')).isEmpty then none
      else (after? idClosing (inner.dropWhile (· != '<'))).map (inner.takeWhile (· != '<'), ·) :=
  rfl

theorem dependency?_eq_bind (text : List Char) :
    dependency? text = (after? dependencyOpening text).bind fun inner =>
      (leftmost idElement? inner).bind fun found =>
        (afterFirst? dependencyClosing found.2).map (found.1, ·) :=
  rfl

/-!
## Artifact id elements

The text of an element holds no `<`, so an element is a fixed text at the front of what is left: it
is found or not, whatever follows. For the same reason no other element begins inside.
-/

/-- An element that holds an artifact id. -/
inductive IsIdElement (id : List Char) : List Char → Prop
  | intro (hne : id ≠ []) (hplain : '<' ∉ id) : IsIdElement id (idOpening ++ (id ++ idClosing))

/-- Text without tags ends where the next tag begins. -/
theorem takeWhile_untagged (hplain : '<' ∉ id) (more : List Char) :
    (id ++ '<' :: more).takeWhile (· != '<') = id := by
  rw [List.takeWhile_append_of_pos, List.takeWhile_cons_of_neg (by simp), List.append_nil]
  intro c hc
  simpa using ne_of_mem_of_not_mem hc hplain

theorem dropWhile_untagged (hplain : '<' ∉ id) (more : List Char) :
    (id ++ '<' :: more).dropWhile (· != '<') = '<' :: more := by
  rw [List.dropWhile_append_of_pos, List.dropWhile_cons_of_neg (by simp)]
  intro c hc
  simpa using ne_of_mem_of_not_mem hc hplain

theorem idElement?_eq_some_iff :
    idElement? text = some (id, rest) ↔ ∃ front, IsIdElement id front ∧ text = front ++ rest := by
  rw [idElement?_eq_bind, Option.bind_eq_some_iff]
  simp only [after?_eq_some_iff]
  constructor
  · rintro ⟨inner, rfl, h⟩
    split at h
    · cases h
    · next hne =>
      obtain ⟨rest, hclose, heq⟩ := Option.map_eq_some_iff.mp h
      cases heq
      refine ⟨_, .intro (by simpa using hne) ?_, ?_⟩
      · intro hmem
        simpa using List.mem_takeWhile_imp hmem
      · rw [List.append_assoc, List.append_assoc, ← after?_eq_some_iff.mp hclose,
          List.takeWhile_append_dropWhile]
  · rintro ⟨front, ⟨hne, hplain⟩, rfl⟩
    -- The name runs to the next tag, as it holds no opening bracket itself.
    refine ⟨id ++ (idClosing ++ rest), by simp only [List.append_assoc], ?_⟩
    have htake : (id ++ (idClosing ++ rest)).takeWhile (· != '<') = id :=
      takeWhile_untagged hplain _
    have hdrop : (id ++ (idClosing ++ rest)).dropWhile (· != '<') =
        idClosing ++ rest :=
      dropWhile_untagged hplain _
    rw [htake, hdrop, after?_append, if_neg (by simpa using hne)]
    rfl

/-- An element is taken whole, whatever follows it. -/
theorem IsIdElement.idElement?_eq (h : IsIdElement id front) (rest : List Char) :
    idElement? (front ++ rest) = some (id, rest) :=
  idElement?_eq_some_iff.mpr ⟨front, h, rfl⟩

theorem idElement?_cons_eq_none {c : Char} (hc : c ≠ '<') (text : List Char) :
    idElement? (c :: text) = none := by
  have hafter : after? idOpening (c :: text) = none := if_neg hc.symm
  rw [idElement?_eq_bind, hafter, Option.bind_none]

/-- Inside of an element no other one begins. -/
theorem IsIdElement.idElement?_eq_none (h : IsIdElement id front) (hlater : later <:+ front.tail)
    (hne : later ≠ []) (rest : List Char) : idElement? (later ++ rest) = none := by
  obtain ⟨-, hplain⟩ := h
  have hname : '<' ∉ "artifactId>".toList ++ id := by
    rw [List.mem_append, not_or]
    exact ⟨by decide, hplain⟩
  have htail : later <:+ ("artifactId>".toList ++ id) ++ '<' :: "/artifactId>".toList := by
    rw [List.append_assoc]
    exact hlater
  -- Past its first character an element has one `<` only, that of the closing tag.
  rcases suffix_append_cons_cases htail with hlast | ⟨last, hlast, rfl⟩
  · obtain ⟨c, last, rfl⟩ := List.exists_cons_of_ne_nil hne
    refine idElement?_cons_eq_none ?_ _
    rintro rfl
    exact absurd (hlast.subset List.mem_cons_self) (by decide)
  · cases last with
    | nil => rfl
    | cons c last =>
        refine idElement?_cons_eq_none ?_ _
        rintro rfl
        exact absurd (hlast.subset List.mem_cons_self) hname

theorem steady_idElement? : Steady idElement? :=
  Steady.of_separate idElement?_eq_some_iff fun rest h hlater hne =>
    h.idElement?_eq_none hlater hne rest

/-!
## Dependencies

The search for a dependency is a search for an element and one for a closing tag, behind the opening
tag. Each of them is steady, and so is their sequence.
-/

/-- The search for dependencies is steady. -/
theorem steady_dependency? : Steady dependency? := by
  have hinner : ∀ inner, ((leftmost idElement? inner).bind fun found =>
      (afterFirst? dependencyClosing found.2).map (found.1, ·)) =
      (leftmost idElement? inner).bind fun found =>
        ((afterFirst? dependencyClosing found.2).map ((), ·)).map
          fun last => (found.1, last.2) := by
    intro inner
    simp only [Option.map_map]
    rfl
  have hsteady := steady_idElement?.leftmost.followedBy
    (steady_afterFirst? dependencyClosing) fun id _ => id
  rw [← funext hinner] at hsteady
  rw [funext dependency?_eq_bind]
  exact hsteady.after dependencyOpening

/-- In the front of a manifest there are the first ones of its dependencies, and an artifact id that
is found there is the one of the whole manifest. -/
theorem ofText_append (front more : String) :
    (ofText front).dependencies <+: (ofText (front ++ more)).dependencies ∧
      ∀ id, (ofText front).artifactId = some id → (ofText (front ++ more)).artifactId = some id := by
  have htext : (front ++ more).toList = front.toList ++ more.toList := String.toList_append
  constructor
  · rw [ofText, ofText, htext]
    exact ((allMatches_append_isPrefix steady_dependency? _ _).map trim).map String.ofList
  · intro id hid
    obtain ⟨trimmed, htrimmed, rfl⟩ := Option.map_eq_some_iff.mp hid
    obtain ⟨⟨found, rest⟩, hfound, rfl⟩ := Option.map_eq_some_iff.mp htrimmed
    have hmore := (steady_idElement?.leftmost.append_iff more.toList).mpr hfound
    rw [ofText, htext, artifactIdIn, hmore]
    rfl

/-- A manifest that breaks off within a tag, and before that leaves a dependency without an id. -/
theorem ofText_append_within_tag :
    let front := "<artifactId> chat </artifactId><dependency></dependency>" ++
      "<dependency><artifactId>a</artifactId></dependency><dependency><artifactId>b</artif"
    let more := "actId></dependency>"
    (ofText front).dependencies = ["a"] ∧ (ofText front).artifactId = some "chat" ∧
      (ofText front).dependencies <+: (ofText (front ++ more)).dependencies ∧
      (ofText (front ++ more)).artifactId = some "chat" := by
  intro front more
  have hdependencies : (ofText front).dependencies = ["a"] := by decide +kernel
  have hid : (ofText front).artifactId = some "chat" := by decide +kernel
  obtain ⟨hinitial, hkept⟩ := ofText_append front more
  exact ⟨hdependencies, hid, hinitial, hkept "chat" hid⟩

end ModuleReadme.Manifest
