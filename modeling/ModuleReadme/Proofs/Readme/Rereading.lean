import ModuleReadme.Proofs.Text.LineEnding
import ModuleReadme.Proofs.Text.Lines
import ModuleReadme.Proofs.Text.TitleCase
import ModuleReadme.Proofs.Text.Trimming
import ModuleReadme.Readme.Document
import Mathlib.Dynamics.FixedPoints.Basic

/-!
# Reading a description back

The writer puts the description of a module on the fifth line of its README and a full stop behind
it; the reader looks for it from the third line on and takes full stops away. So the reader finds
what the writer wrote, provided that it is what a reader can find at all (`IsDescription`) and does
not begin as a heading does (`descriptionIn?_document`). A description that does begin so is passed
over, and what the reader finds instead is never the description (`descriptionIn?_document_ne`).
-/

namespace ModuleReadme.Readme

open Text

/-!
## What a reader can find

Full stops and blanks have been taken from what is found, so it has none at its end, and of the
blanks in front there is none left.
-/

/-- What every description that is read from a README is like: it is on one line, begins with no
blank and does not end with a full stop. -/
structure IsDescription (d : List Char) : Prop where
  oneLine : '\n' ∉ d
  head : ∃ c rest, d = c :: rest ∧ isBlank c = false
  last : d.getLast? ≠ some '。'

theorem isDescription_withoutFullStop {line : Line} (hline : '\n' ∉ line)
    (hne : withoutFullStop line ≠ []) : IsDescription (withoutFullStop line) where
  oneLine hmem :=
    hline ((isInfix_trim line).subset ((isPrefix_dropEndWhile _ (trim line)).subset hmem))
  head := by
    obtain ⟨c, rest, hcons⟩ := List.exists_cons_of_ne_nil hne
    obtain ⟨more, hmore⟩ := isPrefix_dropEndWhile (· == '。') (trim line)
    have htrim : trim line = c :: (rest ++ more) := by
      rw [← hmore, ← withoutFullStop, hcons, List.cons_append]
    exact ⟨c, rest, hcons, not_isBlank_head_trim htrim⟩
  last hlast := by
    have hstop := not_of_getLast?_dropEndWhile hlast
    simp at hstop

/-- What is read from a README is a description. -/
theorem isDescription_of_descriptionIn? {readme d : List Char}
    (h : descriptionIn? readme = some d) : IsDescription d := by
  unfold descriptionIn? at h
  obtain ⟨line, hfind, hd⟩ := Option.bind_eq_some_iff.mp h
  have hmem : line ∈ lines readme :=
    List.mem_of_mem_drop (List.mem_of_mem_take (List.mem_of_find?_eq_some hfind))
  split at hd
  · cases hd
  · next hne =>
    cases hd
    exact isDescription_withoutFullStop (not_mem_of_mem_lines hmem) (by simpa using hne)

/-!
## Line endings

The search looks at each line on its own and trims it, so carriage returns at the end of lines make
no difference.
-/

/-- A README has the same description with carriage returns as without. -/
theorem descriptionIn?_crlf (readme : List Char) :
    descriptionIn? (crlf readme) = descriptionIn? readme := by
  have hdescriptive : ∀ line, isDescriptive (line ++ ['\r']) = isDescriptive line := by
    intro line
    rw [isDescriptive, isDescriptive, trim_append_return]
    cases line with
    | nil => decide
    | cons c line => rfl
  have hfullStop : ∀ line, withoutFullStop (line ++ ['\r']) = withoutFullStop line := by
    intro line
    rw [withoutFullStop, withoutFullStop, trim_append_return]
  -- Of each line the search asks whether it is descriptive and what it comes to.
  let read := fun line => (isDescriptive line, withoutFullStop line)
  have hread : ∀ readme, descriptionIn? readme =
      (((((lines readme).map read).drop titleLines).take descriptionReach).find? (·.1)).bind
        fun line => if line.2.isEmpty then none else some line.2 := by
    intro readme
    rw [descriptionIn?, ← List.map_drop, ← List.map_take, List.find?_map, Option.bind_map]
    rfl
  have hsame : (returned (lines readme)).map read = (lines readme).map read := by
    apply map_returned
    intro line
    simp only [read, hdescriptive, hfullStop]
  rw [hread, hread, lines_crlf, hsame]

/-!
## The line of the description

Writer and reader meet on a single line: what the writer adds to it is what the reader takes away.
-/

@[simp] theorem isDescriptive_nil : isDescriptive [] = false := rfl

/-- A heading describes nothing. -/
@[simp] theorem isDescriptive_heading (l : Line) : isDescriptive ('#' :: l) = false := by
  simp [isDescriptive]

theorem trim_append_fullStop {d : List Char} (h : IsDescription d) :
    trim (d ++ ['。']) = d ++ ['。'] := by
  obtain ⟨c, rest, rfl, hc⟩ := h.head
  refine trim_eq_self (by simpa using hc) ?_
  rw [List.getLast?_concat]
  rintro _ ⟨⟩
  decide

/-- The full stop that the writer adds is the one that the reader takes away. -/
theorem withoutFullStop_append {d : List Char} (h : IsDescription d) :
    withoutFullStop (d ++ ['。']) = d := by
  rw [withoutFullStop, trim_append_fullStop h, dropEndWhile_append_of_pos (by simp)]
  apply dropEndWhile_eq_self
  intro c hlast
  have hne : c ≠ '。' := fun e => h.last (e ▸ hlast)
  simpa using hne

/-- The line of a description is passed over as a heading or taken, by its first character. -/
theorem isDescriptive_append_fullStop {d : List Char} (h : IsDescription d) :
    isDescriptive (d ++ ['。']) = (d.head? != some '#') := by
  rw [isDescriptive, trim_append_fullStop h]
  obtain ⟨c, rest, rfl, -⟩ := h.head
  simp

/-!
## The lines of a README

The first three lines are the title, an empty line and a heading, and the reader starts at the
third. What it sees is the heading, an empty line, the description and some lines of the sections.
-/

/-- The lines of a README behind its description. -/
def sections (a : Appearance) (t : Timestamp) (p : Profile) : List String :=
  interface a p ++ implementation p ++ testing a p ++ notes ++ footer t

theorem documentLines_eq (a : Appearance) (t : Timestamp) (p : Profile) :
    documentLines a t p = introduction p ++ sections a t p := by
  simp only [documentLines, sections, List.append_assoc]

theorem toList_join_ended (ls : List String) :
    (String.join (ls.map (· ++ "\n"))).toList = ended (ls.map String.toList) := by
  induction ls with
  | nil => rfl
  | cons l ls ih => simp [ih]

theorem not_mem_introduction {p : Profile} (hname : '\n' ∉ p.name.toList)
    (hd : '\n' ∉ p.describe.toList) : ∀ l ∈ (introduction p).map String.toList, '\n' ∉ l := by
  have htitle := not_mem_titleCase hname
  simp [introduction, htitle, hd]

/-- The reader starts at the second heading of a README: the next lines that it looks at are the
description, a blank line, and the lines of the sections. -/
theorem descriptionIn?_document (a : Appearance) (t : Timestamp) {p : Profile}
    (hname : '\n' ∉ p.name.toList) (hd : '\n' ∉ p.describe.toList) :
    descriptionIn? (document a t p).toList =
      (((p.describe.toList ++ ['。']) :: [] ::
        (lines (ended ((sections a t p).map String.toList))).take 4).find? isDescriptive).bind
          fun line =>
            if (withoutFullStop line).isEmpty then none else some (withoutFullStop line) := by
  have hlines : lines (document a t p).toList =
      (introduction p).map String.toList ++ lines (ended ((sections a t p).map String.toList)) := by
    rw [document, toList_join_ended, documentLines_eq, List.map_append, ended_append]
    exact lines_ended_append (not_mem_introduction hname hd) _
  rw [descriptionIn?, hlines]
  -- The heading and the blank line in front of the description are passed over.
  simp [introduction, titleLines, descriptionReach]

/-- A description that does not begin as a heading is read back. -/
theorem descriptionIn?_document_eq (a : Appearance) (t : Timestamp) {p : Profile}
    (hname : '\n' ∉ p.name.toList) (hd : IsDescription p.describe.toList)
    (hhead : p.describe.toList.head? ≠ some '#') :
    descriptionIn? (document a t p).toList = some p.describe.toList := by
  have htaken : isDescriptive (p.describe.toList ++ ['。']) = true := by
    rw [isDescriptive_append_fullStop hd]
    simpa using hhead
  obtain ⟨c, rest, hcons, -⟩ := hd.head
  rw [descriptionIn?_document a t hname hd.oneLine, List.find?_cons_of_pos htaken,
    Option.bind_some, withoutFullStop_append hd, hcons]
  rfl

/-!
## Descriptions that look like headings

If the description is passed over, the reader goes on to the sections. As far as it looks there are
headings and empty lines, and at most one other line, which is not the description.
-/

/-- The interface of controllers begins with the heading of the first one that has endpoints. -/
theorem flatMap_controllerSection (a : Appearance) {cs : List Controller}
    (h : cs.any (!·.endpoints.isEmpty) = true) :
    ∃ c ∈ cs, ∃ more,
      cs.flatMap (controllerSection a) = ("### " ++ c.name ++ " 接口") :: "" :: more := by
  induction cs with
  | nil => cases h
  | cons c cs ih =>
      cases he : c.endpoints.isEmpty with
      | false =>
          -- The first controller with an endpoint opens the part.
          refine ⟨c, List.mem_cons_self, endpointSections a 1 c.endpoints ++ [""] ++
            cs.flatMap (controllerSection a), ?_⟩
          simp [controllerSection, when, he]
      | true =>
          obtain ⟨c', hc', more, hmore⟩ := ih (by simpa [he] using h)
          refine ⟨c', List.mem_cons_of_mem c hc', more, ?_⟩
          simp [controllerSection, when, he, hmore]

/-- The line that is found where the description is passed over. -/
def firstComponent : Line := "- **Spring Boot**: 应用框架".toList

/-- The first lines of the sections are headings and blank lines, unless there is no endpoint: then
the list of the components comes with the fourth line. -/
theorem map_sections_eq (a : Appearance) (t : Timestamp) (p : Profile) :
    (∃ c ∈ p.controllers, ∃ more, (sections a t p).map String.toList =
      ["## 接口文档".toList, [], '#' :: "## ".toList ++ c.name.toList ++ " 接口".toList, []] ++ more) ∨
    ∃ more, (sections a t p).map String.toList =
      ["## 技术实现".toList, [], "### 核心组件".toList, firstComponent] ++ more := by
  -- The part on the interface is left out when there is no endpoint.
  cases hp : p.hasEndpoints with
  | false =>
      right
      rw [sections, interface, hp]
      exact ⟨_, rfl⟩
  | true =>
      left
      obtain ⟨c, hc, more, hmore⟩ := flatMap_controllerSection a hp
      refine ⟨c, hc, (more ++ implementation p ++ testing a p ++ notes ++ footer t).map
        String.toList, ?_⟩
      simp [sections, interface, hp, when, hmore]

/-- Near the top of a README nothing behind the description describes the module, unless it is the
first of the components. -/
theorem find?_sections (a : Appearance) (t : Timestamp) {p : Profile}
    (hcontrollers : ∀ c ∈ p.controllers, '\n' ∉ c.name.toList) {found : Option Line}
    (h : ((lines (ended ((sections a t p).map String.toList))).take 4).find? isDescriptive =
      found) : found = none ∨ found = some firstComponent := by
  rcases map_sections_eq a t p with ⟨c, hc, more, hs⟩ | ⟨more, hs⟩
  · -- Headings and blank lines only.
    left
    have hname := hcontrollers c hc
    rw [hs, take_lines_ended (n := 4) (by simp [hname]) more rfl] at h
    rw [← h]
    simp
  · -- The fourth line is the first one that is neither a heading nor blank.
    right
    rw [hs, take_lines_ended (n := 4) (by decide) more rfl] at h
    rw [← h]
    rfl

/-- A description that begins as a heading does is lost. -/
theorem descriptionIn?_document_ne (a : Appearance) (t : Timestamp) {p : Profile}
    (hname : '\n' ∉ p.name.toList) (hcontrollers : ∀ c ∈ p.controllers, '\n' ∉ c.name.toList)
    (hd : IsDescription p.describe.toList) (hhead : p.describe.toList.head? = some '#') :
    descriptionIn? (document a t p).toList ≠ some p.describe.toList := by
  have hpassed : isDescriptive (p.describe.toList ++ ['。']) = false := by
    rw [isDescriptive_append_fullStop hd]
    simpa using hhead
  rw [descriptionIn?_document a t hname hd.oneLine, List.find?_cons_of_neg (by simp [hpassed]),
    List.find?_cons_of_neg (by simp)]
  -- What is found further down begins as no heading does, so it is not the description.
  rcases find?_sections a t hcontrollers rfl with hnone | hsome
  · rw [hnone]
    simp
  · rw [hsome]
    intro heq
    have hfirst : withoutFullStop firstComponent = firstComponent := by decide
    rw [Option.bind_some, hfirst] at heq
    rw [← Option.some.inj heq] at hhead
    exact absurd hhead (by decide)

end ModuleReadme.Readme

namespace ModuleReadme

/-!
## Making a README again

When a README is made anew, its description is read back from the README that is there
(`Profile.reread`). A description that was read once is kept by this for ever, and the README with
it, exactly if it does not begin with `#`. The reader tests for headings before it trims a line, so
an indented heading is taken for a description; written back without its indentation it is a heading
(`description_kept_iff`).
-/

open Readme

/-- The profile of the same module once its README is there: the description is read from it. -/
def Profile.reread (a : Appearance) (t : Timestamp) (p : Profile) : Profile :=
  { p with description := (descriptionIn? (document a t p).toList).map String.ofList }

namespace Readme

variable {a : Appearance} {t : Timestamp} {p : Profile}

/-- A description that is known is used as it is. -/
theorem describe_of_description {d : String} (hp : p.description = some d) (hne : d ≠ "") :
    p.describe = d := by
  have hfilter : p.description.filter (· != "") = some d := by
    rw [hp]
    simpa using hne
  simp [Profile.describe, hfilter]

theorem toList_describe_of_description {d : List Char} (hd : IsDescription d)
    (hp : p.description = some (String.ofList d)) : p.describe.toList = d := by
  obtain ⟨c, rest, rfl, -⟩ := hd.head
  rw [describe_of_description hp (by simp)]
  simp

/-- A profile whose description is read back is the profile of its own README. -/
theorem isFixedPt_reread {d : List Char} (hp : p.description = some (String.ofList d))
    (hread : descriptionIn? (document a t p).toList = some d) :
    Function.IsFixedPt (Profile.reread a t) p := by
  show { p with description := _ } = p
  rw [hread, Option.map_some, ← hp]

/-- A description is kept however often the README is made again, exactly if it does not begin with
`#`. If it does, it is lost with the first README, whatever else is known about the module. -/
theorem description_kept_iff {readme d : List Char} (h : descriptionIn? readme = some d) :
    ((∀ (a : Appearance) (t : Timestamp) (p : Profile), '\n' ∉ p.name.toList →
          p.description = some (String.ofList d) →
          descriptionIn? (document a t p).toList = some d ∧
            ∀ n, document a t ((Profile.reread a t)^[n] p) = document a t p) ↔
        d.head? ≠ some '#') ∧
      (d.head? = some '#' → ∀ (a : Appearance) (t : Timestamp) (p : Profile),
        '\n' ∉ p.name.toList → (∀ c ∈ p.controllers, '\n' ∉ c.name.toList) →
        p.description = some (String.ofList d) →
        descriptionIn? (document a t p).toList ≠ some d) := by
  have hd : IsDescription d := isDescription_of_descriptionIn? h
  have hlost : d.head? = some '#' → ∀ (a : Appearance) (t : Timestamp) (p : Profile),
      '\n' ∉ p.name.toList → (∀ c ∈ p.controllers, '\n' ∉ c.name.toList) →
      p.description = some (String.ofList d) →
      descriptionIn? (document a t p).toList ≠ some d := by
    intro hhead a t p hname hcontrollers hp
    have hdescribe := toList_describe_of_description hd hp
    rw [← hdescribe] at hd hhead ⊢
    exact descriptionIn?_document_ne a t hname hcontrollers hd hhead
  refine ⟨⟨?_, ?_⟩, hlost⟩
  · intro hkept hhead
    -- The module without controllers is enough to lose a description.
    let bare : Profile := { name := "", description := some (String.ofList d) }
    let stamp : Timestamp :=
      { year := 2024, month := 5, day := 1, hour := 12, minute := 30, second := 45 }
    have hread := (hkept {} stamp bare (by simp [bare]) rfl).1
    exact hlost hhead {} stamp bare (by simp [bare]) (by simp [bare]) rfl hread
  · intro hhead a t p hname hp
    have hdescribe := toList_describe_of_description hd hp
    have hread : descriptionIn? (document a t p).toList = some d := by
      rw [← hdescribe] at hd hhead ⊢
      exact descriptionIn?_document_eq a t hname hd hhead
    refine ⟨hread, ?_⟩
    intro n
    rw [Function.iterate_fixed (isFixedPt_reread hp hread) n]

/-- A description that stands between blanks and full stops is kept. -/
theorem description_kept_spaced :
    let readme := "# T\n\n## a\n \t\r\n  x# 。y。 。。\r\n".toList
    let stamp : Timestamp :=
      { year := 2024, month := 5, day := 1, hour := 12, minute := 30, second := 45 }
    let chat : Profile := { name := "chat", description := some "x# 。y。 " }
    descriptionIn? readme = some "x# 。y。 ".toList ∧
      descriptionIn? (document {} stamp chat).toList = some "x# 。y。 ".toList ∧
      ∀ n, document {} stamp ((Profile.reread {} stamp)^[n] chat) = document {} stamp chat := by
  intro readme stamp chat
  have h : descriptionIn? readme = some "x# 。y。 ".toList := by decide
  exact ⟨h, (description_kept_iff h).1.2 (by decide) {} stamp chat (by decide) (by simp [chat])⟩

/-- The description of an indented heading begins with `#`. -/
example : descriptionIn? "\n\n # foo".toList = some "# foo".toList := by decide

end Readme

end ModuleReadme
