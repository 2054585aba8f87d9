import ModuleReadme.Files.Path
import ModuleReadme.Proofs.Files.Tree
import ModuleReadme.Proofs.Text.Lines
import Mathlib.Data.List.DropRight

/-!
# The steps of paths that are put together

The steps of a path behind another one are the steps of both, but for a slash at the end of the
first (`way_join`). The parent of a path takes the same steps up to the last one, but for components
that are redundant there (`way_of_parent?`).
-/

namespace ModuleReadme.Path

variable {p q : Path} {name : FileName}

/-!
## Steps and segments

Segments are the pieces between slashes. Those that are empty are no steps, and the slash at the
end of a path is a step of its own.
-/

/-- The steps of a path, whether a slash is at its end or not. -/
def way (p : Path) : List Step := (p.bytes.splitOn slash).filterMap stepOf?

theorem steps_eq (p : Path) :
    p.steps = p.way ++ if p.endsInSlash then [.slashAtEnd] else [] := rfl

theorem exists_of_endsInSlash (h : p.endsInSlash = true) : ∃ bytes, p.bytes = bytes ++ [slash] := by
  have hlast : p.bytes.getLast? = some slash := by simpa [endsInSlash] using h
  exact List.getLast?_eq_some_iff.mp hlast

theorem stepOf?_eq_none_iff {segment : List UInt8} : stepOf? segment = none ↔ segment = [] := by
  rw [stepOf?]
  split
  · next h => simpa using h
  · next h =>
    have hne : segment ≠ [] := by simpa using h
    split
    · simp [hne]
    · split <;> simp [hne]

/-- A path that is not empty asks for a step at least. -/
theorem steps_ne_nil (h : p.bytes ≠ []) : p.steps ≠ [] := by
  rcases p with ⟨bytes⟩
  intro hnil
  rw [steps_eq, List.append_eq_nil_iff] at hnil
  obtain ⟨hway, hslash⟩ := hnil
  -- Bytes that are no slash are part of a segment, and the last one is no slash.
  induction bytes with
  | nil => exact h rfl
  | cons b rest ih =>
      rw [way, List.splitOn_cons_eq_if_modifyHead] at hway
      split at hway
      · next hb =>
        rcases rest with - | ⟨c, rest⟩
        · simp [endsInSlash, eq_of_beq hb] at hslash
        · apply ih (List.cons_ne_nil c rest)
          · rwa [List.filterMap_cons] at hway
          · simpa [endsInSlash] using hslash
      · obtain ⟨first, others, hsplit⟩ :=
          List.exists_cons_of_ne_nil (List.splitOn_ne_nil slash rest)
        rw [hsplit, List.modifyHead_cons, List.filterMap_cons] at hway
        split at hway
        · next hnone => cases stepOf?_eq_none_iff.mp hnone
        · cases hway

/-!
## Joining

A slash is put between two paths unless there is one. In both cases the segments of the whole are
those of the first and those of the second, up to an empty one between them.
-/

/-- Whatever is between them, two paths that are joined take the steps of the first and then the
steps of the second. -/
theorem way_join (hp : p.bytes ≠ []) (hq : q.isAbsolute = false) :
    (p.join q).way = p.way ++ q.way := by
  have hempty : p.bytes.isEmpty = false := by simpa using hp
  rw [join, hq, hempty, way, way, way]
  simp only [Bool.or_self, Bool.false_eq_true, if_false]
  split
  · next hslash =>
    obtain ⟨bytes, hbytes⟩ := exists_of_endsInSlash hslash
    rw [hbytes]
    simp only [List.append_assoc, List.singleton_append]
    rw [List.splitOn_append_cons_self, List.splitOn_append_cons_self]
    -- Behind the slash at its end the first path has an empty segment, which is no step.
    simp [stepOf?]
  · rw [List.splitOn_append_cons_self, List.filterMap_append]

theorem bytes_join_ne_nil (hq : q.bytes ≠ []) : (p.join q).bytes ≠ [] := by
  rw [join]
  split
  · exact hq
  · split <;> simp [hq]

theorem endsInSlash_join (hq : q.bytes ≠ []) : (p.join q).endsInSlash = q.endsInSlash := by
  rw [join]
  split
  · rfl
  · obtain ⟨bytes, b, hb⟩ := (List.eq_nil_or_concat' q.bytes).resolve_left hq
    split
    · simp [endsInSlash, hb]
    · simp only [endsInSlash, hb]
      rw [← List.cons_append, ← List.append_assoc, List.getLast?_concat, List.getLast?_concat]

theorem isAbsolute_join (hp : p.bytes ≠ []) (hq : q.isAbsolute = false) :
    (p.join q).isAbsolute = p.isAbsolute := by
  have hempty : p.bytes.isEmpty = false := by simpa using hp
  rw [join, hq, hempty]
  simp only [Bool.or_self, Bool.false_eq_true, if_false]
  obtain ⟨b, bytes, hb⟩ := List.exists_cons_of_ne_nil hp
  split <;> simp [isAbsolute, hb]

/-!
## Entries

A proper name is one segment and one step.
-/

theorem way_of_isProperName (h : Tree.isProperName name = true) :
    (⟨name⟩ : Path).way = [.entry name] := by
  obtain ⟨hne, hslash, hdot, hdots⟩ := Tree.isProperName_iff.mp h
  rw [way, List.splitOn_eq_singleton hslash]
  simp [stepOf?, hne, hdot, hdots]

theorem bytes_child_ne_nil (h : Tree.isProperName name = true) : (p.child name).bytes ≠ [] :=
  bytes_join_ne_nil (Tree.isProperName_iff.mp h).1

theorem isAbsolute_of_isProperName (h : Tree.isProperName name = true) :
    (⟨name⟩ : Path).isAbsolute = false := by
  cases name with
  | nil => rfl
  | cons b name =>
      have hslash : slash ∉ b :: name := (Tree.isProperName_iff.mp h).2.1
      simpa [isAbsolute] using (List.ne_of_not_mem_cons hslash).symm

theorem way_child (hp : p.bytes ≠ []) (h : Tree.isProperName name = true) :
    (p.child name).way = p.way ++ [.entry name] := by
  rw [child, way_join hp (isAbsolute_of_isProperName h), way_of_isProperName h]

theorem endsInSlash_of_isProperName (h : Tree.isProperName name = true) :
    (⟨name⟩ : Path).endsInSlash = false := by
  have hslash : slash ∉ name := (Tree.isProperName_iff.mp h).2.1
  have hlast : name.getLast? ≠ some slash := fun hlast => hslash (List.mem_of_getLast? hlast)
  simpa [endsInSlash] using hlast

theorem steps_of_isProperName (h : Tree.isProperName name = true) :
    (⟨name⟩ : Path).steps = [.entry name] := by
  rw [steps_eq, way_of_isProperName h, endsInSlash_of_isProperName h]
  rfl

/-- The last step to an entry is the one with its name. -/
theorem steps_child (hp : p.bytes ≠ []) (h : Tree.isProperName name = true) :
    (p.child name).steps = p.way ++ [.entry name] := by
  have hne : name ≠ [] := (Tree.isProperName_iff.mp h).1
  have hslash : (p.child name).endsInSlash = false := by
    rw [child, endsInSlash_join hne, endsInSlash_of_isProperName h]
  rw [steps_eq, hslash, way_child hp h]
  exact List.append_nil _

/-!
## Parents

A path is its head, which is a slash, a dot or nothing, and its segments behind it. Its parent has
the same head and the first ones of the segments.
-/

theorem head_append_segments (p : Path) : p.head ++ [slash].intercalate p.segments = p.bytes := by
  rw [segments, List.intercalate_splitOn]
  unfold head
  split
  · next h => simp [h]
  · next b rest h =>
    split
    · next hb => simp [h, hb]
    · split
      · next hdot =>
        have hb : b = dot := (by simpa using hdot : b = dot ∧ _).1
        simp [h, hb]
      · simp [h]

theorem head_eq (p : Path) :
    p.head = [] ∨ p.head = [slash] ∨ p.head = [dot] ∧ ∃ rest, p.segments = [] :: rest := by
  rcases p with ⟨- | ⟨b, bytes⟩⟩
  · exact .inl rfl
  · by_cases hslash : b = slash
    · right; left
      simp [head, hslash]
    · -- A dot counts as a head if it is the whole first segment.
      by_cases hdot : (b = dot && (bytes.isEmpty || bytes.head? == some slash)) = true
      · right; right
        have hhead : (⟨b :: bytes⟩ : Path).head = [dot] := by
          rw [head]
          simp only [if_neg hslash]
          rw [if_pos hdot]
        refine ⟨hhead, ?_⟩
        rw [segments, hhead]
        rcases bytes with - | ⟨c, bytes⟩
        · exact ⟨[], rfl⟩
        · have hc : c = slash := (by simpa using hdot : _ ∧ c = slash).2
          exact ⟨bytes.splitOn slash, by simp [hc, List.splitOn_cons_eq_if_modifyHead]⟩
      · left
        rw [head]
        simp only [if_neg hslash]
        rw [if_neg hdot]

theorem intercalate_append {a b : List (List UInt8)} (ha : a ≠ []) (hb : b ≠ []) :
    [slash].intercalate (a ++ b) = [slash].intercalate a ++ slash :: [slash].intercalate b := by
  induction a with
  | nil => contradiction
  | cons s a ih =>
      rcases a with - | ⟨r, a⟩
      · rw [List.cons_append, List.nil_append, List.intercalate_cons_of_ne_nil hb]
        simp
      · rw [List.cons_append, List.cons_append, List.intercalate_cons_cons, ← List.cons_append,
          ih (by simp), List.intercalate_cons_cons]
        simp

/-- The path of the first segments takes the steps up to the other ones. -/
theorem way_ofSegments {kept more : List (List UInt8)} (h : p.segments = kept ++ more)
    (hmore : more ≠ []) (hne : (ofSegments p.head kept).bytes ≠ []) :
    p.way = (ofSegments p.head kept).way ++ more.filterMap stepOf? ∧
      (ofSegments p.head kept).isAbsolute = p.isAbsolute := by
  have hbytes := head_append_segments p
  have hsplit : ([slash].intercalate more).splitOn slash = more := by
    apply List.splitOn_intercalate slash _ hmore
    intro s hs
    have hmem : s ∈ p.segments := by
      rw [h]
      exact List.mem_append_right kept hs
    exact Text.not_mem_of_mem_splitOn hmem
  by_cases hkept : kept = []
  · -- Nothing but the head is left: a slash, or a dot with the empty segment behind it.
    subst hkept
    rw [List.nil_append] at h
    have hhead : (ofSegments p.head []).bytes = p.head := List.append_nil _
    rw [hhead] at hne
    rw [h] at hbytes
    rcases p.head_eq with hnil | hslash | ⟨hdot, rest, hrest⟩
    · exact absurd hnil hne
    · have hway : (ofSegments p.head []).way = [] := by
        rw [way, hhead, hslash]
        decide
      rw [hslash, List.singleton_append] at hbytes
      rw [hway, way, isAbsolute, isAbsolute, hhead, hslash, ← hbytes,
        List.splitOn_cons_eq_if_modifyHead, hsplit]
      simp [stepOf?]
    · have hway : (ofSegments p.head []).way = [.here] := by
        rw [way, hhead, hdot]
        decide
      rw [h] at hrest
      subst hrest
      have hne : (dot == slash) = false := by decide
      rw [hdot, List.singleton_append] at hbytes
      rw [hway, way, isAbsolute, isAbsolute, hhead, hdot, ← hbytes,
        List.splitOn_cons_eq_if_modifyHead, hsplit, hne]
      simp [stepOf?, slash, dot]
  · -- The kept segments end at a slash, behind which the other ones come.
    rw [h, intercalate_append hkept hmore, ← List.append_assoc] at hbytes
    constructor
    · rw [way, way, ← hbytes, List.splitOn_append_cons_self, hsplit, List.filterMap_append]
      rfl
    · obtain ⟨b, bytes, hb⟩ := List.exists_cons_of_ne_nil hne
      rw [isAbsolute, isAbsolute, ← hbytes]
      show _ = (((ofSegments p.head kept).bytes ++ _).head? == some slash)
      rw [hb]
      rfl

/-- The parent of a path is what the path begins with. -/
theorem isPrefix_of_parent? {d : Path} (h : p.parent? = some d) : d.bytes <+: p.bytes := by
  -- The path of the first segments begins as the path of all of them.
  have hsegments : ∀ kept, kept <+: p.segments → (ofSegments p.head kept).bytes <+: p.bytes := by
    rintro kept ⟨more, hmore⟩
    rw [← head_append_segments p, ← hmore, ofSegments]
    apply (List.prefix_append_right_inj p.head).mpr
    rcases eq_or_ne kept [] with rfl | hkept
    · exact List.nil_prefix
    · rcases eq_or_ne more [] with rfl | hne
      · simp
      · rw [intercalate_append hkept hne]
        exact List.prefix_append _ _
  have htrimmed : p.trimmedSegments <+: p.segments := List.rdropWhile_prefix isRedundant p.segments
  unfold parent? at h
  split at h
  · split at h
    · cases h
      exact List.nil_prefix
    · cases h
  · next segment rest hcons =>
    cases h
    apply hsegments
    rw [hcons] at htrimmed
    exact ((List.rdropWhile_prefix isRedundant _).trans (List.dropLast_prefix _)).trans htrimmed

/-- The directories above a path that it names are what it begins with. -/
theorem isPrefix_of_mem_ancestors {d : Path} (h : d ∈ p.ancestors) : d.bytes <+: p.bytes := by
  fun_induction ancestors p with
  | case1 => cases h
  | case2 p q hparent hlt ih =>
      rcases List.mem_cons.mp h with rfl | h
      · exact List.prefix_refl _
      · exact (ih h).trans (isPrefix_of_parent? hparent)
  | case3 p q hparent hlt =>
      obtain rfl := List.mem_singleton.mp h
      exact List.prefix_refl _

/-- Redundant segments stay where they are. -/
theorem filterMap_stepOf?_of_isRedundant {l : List (List UInt8)}
    (h : ∀ s ∈ l, isRedundant s = true) : ∀ step ∈ l.filterMap stepOf?, step = .here := by
  intro step hstep
  obtain ⟨s, hs, hof⟩ := List.mem_filterMap.mp hstep
  have hred := h s hs
  unfold stepOf? at hof
  split at hof
  · cases hof
  · next hempty =>
    have hdot : s = [dot] := by simpa [isRedundant, hempty] using hred
    rw [if_pos hdot] at hof
    exact (Option.some.inj hof).symm

theorem exists_stepOf? {s : List UInt8} (h : isRedundant s = false) :
    ∃ step, stepOf? s = some step := by
  have hne : s.isEmpty = false ∧ s ≠ [dot] := by simpa [isRedundant] using h
  unfold stepOf?
  rw [hne.1, if_neg (by simp), if_neg hne.2]
  split
  · exact ⟨.up, rfl⟩
  · exact ⟨.entry s, rfl⟩

end ModuleReadme.Path
