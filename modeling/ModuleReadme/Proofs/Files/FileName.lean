import ModuleReadme.Proofs.Files.Growth

/-!
# The names of files

A path whose last step leads to an entry has the name of the entry as its file name
(`fileName?_of_steps`), and a file name without its extension is what stands in front of the last
dot (`stemOf_append_extension`). Whichever way a directory is named, its name has no slash
(`slash_not_mem_of_nameOf?`).
-/

namespace ModuleReadme.Path

variable {p : Path} {name : FileName}

/-!
## The last component

The name of a path is read off its segments, and where the path leads off its steps. Both leave out
empty segments and dots, but not the dot that a path begins with. So the two agree from the end.
-/

/-- The steps of a path are those of its segments, behind a step that leads nowhere if the path
begins with a dot. -/
theorem way_eq_append (p : Path) : ∃ stays, p.way = stays ++ p.segments.filterMap stepOf? ∧
    ∀ step ∈ stays, step = .here := by
  have hsegments : p.segments ≠ [] := List.splitOn_ne_nil slash _
  by_cases hhead : p.head = []
  · refine ⟨[], ?_, by simp⟩
    rw [way, segments, hhead]
    rfl
  · have hbytes : (ofSegments p.head []).bytes = p.head := List.append_nil _
    obtain ⟨hway, -⟩ := way_ofSegments (List.nil_append p.segments).symm hsegments (by rwa [hbytes])
    refine ⟨_, hway, ?_⟩
    rw [way, hbytes]
    -- The head is a slash or a dot, and both stay where they are.
    rcases p.head_eq with hnil | hslash | ⟨hdot, -⟩
    · exact absurd hnil hhead
    · rw [hslash]
      decide
    · rw [hdot]
      decide

theorem eq_of_stepOf?_eq_entry {segment : List UInt8} (h : stepOf? segment = some (.entry name)) :
    segment = name ∧ name ≠ [dot, dot] := by
  unfold stepOf? at h
  grind

/-- The file name of a path is what its last step leads to. -/
theorem fileName?_of_steps {front : List Step} (h : p.steps = front ++ [.entry name]) :
    p.fileName? = some name := by
  have hway : p.way.getLast? = some (.entry name) := by
    rw [steps_eq] at h
    cases hslash : p.endsInSlash with
    | true =>
        rw [hslash, if_pos rfl] at h
        cases (List.append_inj' h rfl).2
    | false =>
        rw [hslash, if_neg (by simp), List.append_nil] at h
        rw [h, List.getLast?_concat]
  obtain ⟨stays, hsegments, hstays⟩ := way_eq_append p
  have htrimmed : p.trimmedSegments = p.segments.rdropWhile isRedundant := rfl
  have hsplit : p.segments = p.trimmedSegments ++ p.segments.rtakeWhile isRedundant := by
    rw [htrimmed, List.rdropWhile_append_rtakeWhile]
  have hends := filterMap_stepOf?_of_isRedundant (l := p.segments.rtakeWhile isRedundant)
    fun s hs => List.mem_rtakeWhile_imp hs
  rw [hsegments, hsplit, List.filterMap_append] at hway
  -- Neither what is in front of the segments nor what is redundant behind them leads to an entry.
  rcases List.eq_nil_or_concat' p.trimmedSegments with hnil | ⟨others, last, hconcat⟩
  · have hmem := List.mem_of_getLast? hway
    rw [hnil] at hmem
    simp only [List.filterMap_nil, List.nil_append, List.mem_append] at hmem
    rcases hmem with hmem | hmem
    · cases hstays _ hmem
    · cases hends _ hmem
  · have hlast : isRedundant last = false := by
      have hnot := List.rdropWhile_last_not isRedundant p.segments (by simp [← htrimmed, hconcat])
      simpa [← htrimmed, hconcat] using hnot
    obtain ⟨step, hstep⟩ := exists_stepOf? hlast
    have hnone : (p.segments.rtakeWhile isRedundant).filterMap stepOf? = [] := by
      by_contra hne
      rw [← List.append_assoc, List.getLast?_append_of_ne_nil _ hne] at hway
      cases hends _ (List.mem_of_getLast? hway)
    rw [hnone, hconcat, List.filterMap_append, List.append_nil, ← List.append_assoc,
      List.filterMap_cons, hstep] at hway
    have heq : step = .entry name := by simpa using hway
    obtain ⟨rfl, hdots⟩ := eq_of_stepOf?_eq_entry (heq ▸ hstep)
    rw [fileName?, hconcat, List.getLast?_concat]
    simp [hdots]

theorem fileName?_child (hp : p.bytes ≠ []) (h : Tree.isProperName name = true) :
    (p.child name).fileName? = some name :=
  fileName?_of_steps (steps_child hp h)

/-!
## Extensions

A name that begins with its only dot has no extension, and the stem is the whole name then. This is
why something has to stand in front of the dot.
-/

/-- The stem of a name is what stands in front of its last dot, if that is not empty. -/
theorem stemOf_append_extension {stem extension : FileName} (hne : stem ≠ [])
    (hdot : dot ∉ extension) : stemOf (stem ++ dot :: extension) = stem := by
  -- The last dot is the one in front of the extension.
  have hmem : (stem ++ dot :: extension).contains dot = true := by simp
  have hrev : (stem ++ dot :: extension).reverse = extension.reverse ++ dot :: stem.reverse := by
    simp
  have hdrop : (extension.reverse ++ dot :: stem.reverse).dropWhile (· != dot) =
      dot :: stem.reverse := by
    rw [List.dropWhile_append_of_pos]
    · simp
    · intro b hb
      have hb : b ∈ extension := List.mem_reverse.mp hb
      have hne : b ≠ dot := by
        rintro rfl
        exact hdot hb
      simpa using hne
  rw [stemOf, if_pos hmem, hrev, hdrop, List.tail_cons, List.reverse_reverse]
  split
  · contradiction
  · rfl

/-- No piece between slashes has a slash. -/
theorem slash_not_mem_of_fileName? (h : p.fileName? = some name) : slash ∉ name := by
  obtain ⟨hlast, -⟩ := Option.filter_eq_some_iff.mp h
  have hsegment : name ∈ p.segments :=
    (List.rdropWhile_prefix isRedundant p.segments).mem (List.mem_of_getLast? hlast)
  exact Text.not_mem_of_mem_splitOn hsegment

end ModuleReadme.Path

/-!
## The name of a directory

A directory that can be spelled out is named by the place where it is, and the names of places are
proper. Any other one is named by its path, where slashes stand between names.
-/

namespace ModuleReadme.Workspace

open ModuleReadme.Tree ModuleReadme.Path

variable {w : Workspace} {p : Path} {name : FileName}

/-- A place that can be spelled out can be found. -/
theorem follow_find_of_spell {root : Tree} {links : Nat} {place q : Place} {steps : List Step}
    (h : follow root .spell links place steps = .ok q) :
    follow root .find links place steps = .ok q := by
  fun_induction follow root .spell links place steps <;> rw [follow] <;> grind

/-- The name of what a path leads to has no slash. -/
theorem slash_not_mem_of_nameOf? (hproper : w.root.isProper = true)
    (h : w.nameOf? p = some name) : slash ∉ name := by
  unfold nameOf? at h
  split at h
  · next place hlocate =>
    -- The path was spelled out, so there is something at the place that it leads to.
    have hfollow : follow w.root .spell maxLinks (w.start p) p.steps = .ok place := by
      unfold locate at hlocate
      grind [start]
    have hne : p.bytes ≠ [] := by
      rintro hnil
      rw [locate, hnil] at hlocate
      cases hlocate
    obtain ⟨left, hleads⟩ := exists_leads (follow_find_of_spell hfollow)
    have hlook : ∃ t, w.root.look place = some t := by
      rcases hleads.look_eq (steps_ne_nil hne) with hdir | ⟨-, -, t, -, -, hlook, -⟩
      · exact ⟨_, hdir⟩
      · exact ⟨t, hlook⟩
    obtain ⟨t, hlook⟩ := hlook
    obtain ⟨s, hat, -⟩ := Option.map_eq_some_iff.mp hlook
    have hname := isProperName_of_at? hproper hat name (List.mem_of_getLast? h)
    exact (isProperName_iff.mp hname).2.1
  · exact slash_not_mem_of_fileName? h

end ModuleReadme.Workspace
