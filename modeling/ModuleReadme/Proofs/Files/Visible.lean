import ModuleReadme.Proofs.Files.Walk

/-!
# The files that a walk meets

A walk meets the files to which no hidden name and no directory of build products leads and which
it reaches through directories that can be opened, each of them once, in the order of the names on
the way to them (`exists_filter_visits_eq`). If all directories can be opened, these are all
visible files, and the walk meets nothing else (`exists_visits_eq`). Since a place is reached by
the names of directories alone, no link leads to any of these files.
-/

namespace ModuleReadme

/-!
## Paths of places

A walk has a path for each place that it meets: the one it began with and the names of the place.
-/

/-- The path of a place below the directory `p`. -/
def Path.below (p : Path) (names : Place) : Path := names.foldl child p

namespace Path

variable {p : Path} {names : Place}

theorem way_below (hp : p.bytes ≠ []) (h : ∀ name ∈ names, Tree.isProperName name = true) :
    (p.below names).way = p.way ++ names.map .entry := by
  induction names generalizing p with
  | nil => simp [below]
  | cons name names ih =>
      obtain ⟨hname, hnames⟩ := List.forall_mem_cons.mp h
      show ((p.child name).below names).way = _
      rw [ih (bytes_child_ne_nil hname) hnames, way_child hp hname]
      simp

/-- Different places have different paths. -/
theorem below_injective {others : Place} (hp : p.bytes ≠ [])
    (h : ∀ name ∈ names, Tree.isProperName name = true)
    (h' : ∀ name ∈ others, Tree.isProperName name = true)
    (heq : p.below names = p.below others) : names = others := by
  have hway : p.way ++ names.map Step.entry = p.way ++ others.map Step.entry := by
    rw [← way_below hp h, ← way_below hp h', heq]
  have hentries : names.map Step.entry = others.map Step.entry := List.append_cancel_left hway
  exact List.map_injective_iff.mpr (fun a b hab => Step.entry.inj hab) hentries

end Path

namespace Tree

open ModuleReadme.Path

variable {t s : Tree} {path : Path} {names : Place} {name : FileName}
  {entries : List (FileName × Tree)}

/-!
## Visible files

Visibility is a matter of the names on the way and has nothing to do with how the tree is walked.
Each of its facts is stated for one name in front of the others, as the walk meets them.
-/

/-- A regular file at a place below a tree, where no name on the way is hidden and no directory on
the way is named as those are that hold build products. -/
structure IsVisible (t : Tree) (names : Place) : Prop where
  file : ∃ content, t.at? names = some (.file content)
  shown : ∀ name ∈ names, name.head? ≠ some dot
  source : Text.encode "target" ∉ names.dropLast

/-- Every directory of a tree can be opened under its path. -/
def IsOpenable (path : Path) (t : Tree) : Prop :=
  ∀ names entries, t.at? names = some (.directory entries) → (path.below names).isTooLong = false

/-- A visible file that a walk from `path` on reaches: each directory on the way to it can be
opened. -/
structure IsReached (path : Path) (t : Tree) (names : Place) : Prop where
  visible : t.IsVisible names
  opened : ∀ above below, names = above ++ below → below ≠ [] →
    (path.below above).isTooLong = false

/-- On the way to a visible file there are directories. -/
theorem IsVisible.directory_of_append {below : Place} (h : t.IsVisible (names ++ below))
    (hne : below ≠ []) : ∃ entries, t.at? names = some (.directory entries) := by
  obtain ⟨content, hat⟩ := h.file
  obtain ⟨name, below, rfl⟩ := List.exists_cons_of_ne_nil hne
  obtain ⟨entries, -, hdir, -, -⟩ := exists_of_at?_append_cons hat
  exact ⟨entries, hdir⟩

theorem isVisible_nil_iff : t.IsVisible [] ↔ ∃ content, t = .file content := by
  constructor
  · rintro ⟨⟨content, hat⟩, -, -⟩
    cases t <;> exact ⟨content, Option.some.inj hat⟩
  · rintro ⟨content, rfl⟩
    exact ⟨⟨content, rfl⟩, by simp, by simp⟩

/-- A directory itself is no file. -/
theorem IsVisible.ne_nil (h : (directory entries).IsVisible names) : names ≠ [] := by
  rintro rfl
  obtain ⟨content, hfile⟩ := isVisible_nil_iff.mp h
  cases hfile

/-- A file is visible below a directory if the entry on the way to it is not left out, and it is
visible below this entry. -/
theorem isVisible_cons_iff : (directory entries).IsVisible (name :: names) ↔
    ∃ s, entryNamed? name entries = some s ∧ isLeftOut name s = false ∧ s.IsVisible names := by
  constructor
  · rintro ⟨⟨content, hat⟩, hshown, hsource⟩
    obtain ⟨s, hs, hat⟩ := Option.bind_eq_some_iff.mp hat
    obtain ⟨hname, hnames⟩ := List.forall_mem_cons.mp hshown
    rcases names with - | ⟨n, names⟩
    · -- A file may be named as directories are that are left out.
      obtain ⟨c, rfl⟩ := isVisible_nil_iff.mp ⟨⟨content, hat⟩, by simp, by simp⟩
      exact ⟨_, hs, by simp [isLeftOut, hname, isDirectory], ⟨content, hat⟩, by simp, by simp⟩
    · rw [List.dropLast_cons_of_ne_nil (List.cons_ne_nil n names), List.mem_cons, not_or] at hsource
      have hout : isLeftOut name s = false := by
        simp [isLeftOut, hname, Ne.symm hsource.1]
      exact ⟨s, hs, hout, ⟨content, hat⟩, hnames, hsource.2⟩
  · rintro ⟨s, hs, hout, ⟨content, hat⟩, hshown, hsource⟩
    rw [isLeftOut, Bool.or_eq_false_iff] at hout
    obtain ⟨hname, htarget⟩ := hout
    refine ⟨⟨content, ?_⟩, ?_, ?_⟩
    · rw [at?, hs]
      exact hat
    · exact List.forall_mem_cons.mpr ⟨by simpa using hname, hshown⟩
    · rcases names with - | ⟨n, names⟩
      · simp
      · rw [List.dropLast_cons_of_ne_nil (List.cons_ne_nil n names), List.mem_cons, not_or]
        refine ⟨?_, hsource⟩
        rintro rfl
        -- What a name leads on from is a directory.
        cases s with
        | file => cases hat
        | link => cases hat
        | directory below => simp [isDirectory] at htarget

theorem isReached_cons_iff : IsReached path (directory entries) (name :: names) ↔
    path.isTooLong = false ∧ ∃ s, entryNamed? name entries = some s ∧ isLeftOut name s = false ∧
      IsReached (path.child name) s names := by
  constructor
  · rintro ⟨hvisible, hopened⟩
    obtain ⟨s, hs, hout, hvisible⟩ := isVisible_cons_iff.mp hvisible
    refine ⟨hopened [] (name :: names) rfl (List.cons_ne_nil _ _), s, hs, hout, hvisible, ?_⟩
    rintro above below rfl hne
    exact hopened (name :: above) below rfl hne
  · rintro ⟨hpath, s, hs, hout, hvisible, hopened⟩
    refine ⟨isVisible_cons_iff.mpr ⟨s, hs, hout, hvisible⟩, ?_⟩
    intro above below heq hne
    -- The directory above is the one that is walked, or one below it.
    cases above with
    | nil => exact hpath
    | cons n above =>
        obtain ⟨rfl, htail⟩ := List.cons_eq_cons.mp heq
        exact hopened above below htail hne

/-- If all directories can be opened, a walk reaches all visible files. -/
theorem isReached_iff (hopen : IsOpenable path t) : IsReached path t names ↔ t.IsVisible names := by
  constructor
  · exact IsReached.visible
  · intro hvisible
    refine ⟨hvisible, ?_⟩
    rintro above below rfl hne
    obtain ⟨entries, hdirectory⟩ := hvisible.directory_of_append hne
    exact hopen above entries hdirectory

theorem not_isVisible_link {target : Path} : ¬ (link target).IsVisible names := by
  rintro ⟨⟨content, hat⟩, -, -⟩
  cases names <;> cases hat

theorem isVisible_file_iff {content : Content} : (file content).IsVisible names ↔ names = [] := by
  constructor
  · rintro ⟨⟨c, hat⟩, -, -⟩
    cases names with
    | nil => rfl
    | cons name names => cases hat
  · rintro rfl
    exact isVisible_nil_iff.mpr ⟨content, rfl⟩

/-!
## The order of a walk

Entries are put in the order of their names, and what is below one of them is met before the next.
This is the lexicographic order on places.
-/

/-- The entries of a directory that a walk does not leave out, in the order of their names. -/
def shownInOrder (entries : List (FileName × Tree)) : List (FileName × Tree) :=
  (entries.filter fun e => !isLeftOut e.1 e.2).mergeSort fun a b => nameLE a.1 b.1

theorem mem_shownInOrder {e : FileName × Tree} :
    e ∈ shownInOrder entries ↔ e ∈ entries ∧ isLeftOut e.1 e.2 = false := by
  simp [shownInOrder, List.mem_mergeSort]

/-- Names that occur once are put in strict order. -/
theorem pairwise_shownInOrder (h : (entries.map (·.1)).Nodup) :
    (shownInOrder entries).Pairwise fun a b => a.1 < b.1 := by
  have hordered : (shownInOrder entries).Pairwise fun a b => nameLE a.1 b.1 = true :=
    List.pairwise_mergeSort (fun a b c => nameLE_trans a.1 b.1 c.1)
      (fun a b => nameLE_total a.1 b.1) _
  have hdistinct : ((shownInOrder entries).map (·.1)).Nodup := by
    have hperm : (shownInOrder entries).Perm (entries.filter fun e => !isLeftOut e.1 e.2) :=
      List.mergeSort_perm _ _
    exact (hperm.map _).nodup_iff.mpr (h.sublist (List.filter_sublist.map _))
  -- In order and distinct is in strict order.
  refine (hordered.and (List.pairwise_map.mp hdistinct)).imp ?_
  rintro a b ⟨hle, hne⟩
  exact (List.le_iff_lt_or_eq.mp (by simpa [nameLE] using hle)).resolve_right hne

/-- A directory that can be opened is walked entry by entry. -/
theorem visits_directory (h : path.isTooLong = false) (name : FileName) (depth : Nat) :
    (directory entries).visits path name depth =
      (shownInOrder entries).flatMap fun e => e.2.visits (path.child e.1) e.1 (depth + 1) := by
  have hmap : ∀ es : List (FileName × Tree),
      inNameOrder (es.map fun e => (e.1, e.2.visits (path.child e.1) e.1 (depth + 1))) =
        (es.mergeSort fun a b => nameLE a.1 b.1).flatMap
          fun e => e.2.visits (path.child e.1) e.1 (depth + 1) := by
    intro es
    rw [inNameOrder, ← List.map_mergeSort (r := fun a b => nameLE a.1 b.1) (fun _ _ _ _ => rfl),
      List.flatMap_map]
  rw [visits, h, visitsOfEntries_eq, hmap]
  rfl

/-!
## What is met

The induction is on the tree, with the path of the walk, the name and the depth left general. The
places that are found below an entry get its name put in front of them.
-/

/-- The visit of a file at a place below a tree that was reached through `depth` names, the last of
which is `name`. -/
def visitAt (path : Path) (name : FileName) (depth : Nat) (names : Place) : Visit :=
  .file (path.below names) (names.getLast?.getD name) (depth + names.length)

theorem visitAt_cons (path : Path) (name n : FileName) (depth : Nat) (names : Place) :
    visitAt path name depth (n :: names) = visitAt (path.child n) n (depth + 1) names := by
  rw [visitAt, visitAt, List.getLast?_cons, List.length_cons, Option.getD_some, Nat.add_assoc,
    Nat.add_comm 1]
  rfl

/-- Whether a visit is that of a file. -/
def isFileVisit : Visit → Bool
  | .file _ _ _ => true
  | .unopened _ _ => false

/-- Some places are those of the files that a walk from `path` on reaches, in their order. -/
structure Reaches (path : Path) (t : Tree) (places : List Place) : Prop where
  mem_iff : ∀ names, names ∈ places ↔ IsReached path t names
  ordered : places.Pairwise (· < ·)

/-- Some places are those of the visible files below a tree, in their order. -/
structure Shows (t : Tree) (places : List Place) : Prop where
  mem_iff : ∀ names, names ∈ places ↔ t.IsVisible names
  ordered : places.Pairwise (· < ·)

theorem isOpenable_file (path : Path) (content : Content) : IsOpenable path (file content) := by
  intro names below hat
  cases names <;> cases hat

theorem isOpenable_link (path target : Path) : IsOpenable path (link target) := by
  intro names below hat
  cases names <;> cases hat

/-- A directory whose entries can all be opened. -/
theorem isOpenable_directory (hpath : path.isTooLong = false)
    (h : ∀ e ∈ entries, IsOpenable (path.child e.1) e.2) : IsOpenable path (directory entries) := by
  intro names below hat
  cases names with
  | nil => exact hpath
  | cons name names =>
      obtain ⟨s, hs, hat⟩ := Option.bind_eq_some_iff.mp hat
      exact h (name, s) (mem_of_entryNamed? hs) names below hat

/-- The files that are reached below a directory are those below its entries, entry by entry. -/
theorem reaches_directory (hproper : (directory entries).isProper = true)
    (hpath : path.isTooLong = false) {placesOf : FileName × Tree → List Place}
    (h : ∀ e ∈ shownInOrder entries, Reaches (path.child e.1) e.2 (placesOf e)) :
    Reaches path (directory entries)
      ((shownInOrder entries).flatMap fun e => (placesOf e).map (e.1 :: ·)) where
  mem_iff names := by
    simp only [List.mem_flatMap, List.mem_map]
    cases names with
    | nil =>
        constructor
        · rintro ⟨e, -, names, -, hnil⟩
          cases hnil
        · intro hnil
          exact absurd rfl hnil.visible.ne_nil
    | cons name names =>
        -- A place is a name and the place below it, as in the list.
        rw [isReached_cons_iff]
        constructor
        · rintro ⟨⟨n, s⟩, he, names, hnames, heq⟩
          cases heq
          obtain ⟨hmem, hout⟩ := mem_shownInOrder.mp he
          exact ⟨hpath, s, entryNamed?_of_mem (nodup_of_isProper hproper) hmem, hout,
            ((h _ he).mem_iff names).mp hnames⟩
        · rintro ⟨-, s, hs, hout, hreached⟩
          have he : (name, s) ∈ shownInOrder entries :=
            mem_shownInOrder.mpr ⟨mem_of_entryNamed? hs, hout⟩
          exact ⟨(name, s), he, names, ((h _ he).mem_iff names).mpr hreached, rfl⟩
  ordered := by
    rw [List.pairwise_flatMap]
    constructor
    · intro e he
      rw [List.pairwise_map]
      refine (h e he).ordered.imp ?_
      intro a b hab
      exact List.cons_lt_cons_iff.mpr (.inr ⟨rfl, hab⟩)
    · -- Places below different entries differ in their first names.
      refine (pairwise_shownInOrder (nodup_of_isProper hproper)).imp ?_
      intro e f hef a ha b hb
      obtain ⟨a, -, rfl⟩ := List.mem_map.mp ha
      obtain ⟨b, -, rfl⟩ := List.mem_map.mp hb
      exact List.cons_lt_cons_iff.mpr (.inl hef)

/-- Below a directory that cannot be opened nothing is reached. -/
theorem reaches_nil (hpath : path.isTooLong = true) : Reaches path (directory entries) [] where
  mem_iff names := by
    refine ⟨fun hnil => absurd hnil List.not_mem_nil, fun hreached => ?_⟩
    have hopened : path.isTooLong = false :=
      hreached.opened [] names rfl hreached.visible.ne_nil
    rw [hpath] at hopened
    cases hopened
  ordered := List.Pairwise.nil

/-- A walk meets the files that it reaches, in their order, and no other file. -/
theorem exists_filter_visits_eq (path : Path) (name : FileName) (depth : Nat) (t : Tree)
    (hproper : t.isProper = true) :
    ∃ places, (t.visits path name depth).filter isFileVisit =
        places.map (visitAt path name depth) ∧ Reaches path t places := by
  match t with
  | .file content =>
      refine ⟨[[]], ?_, ?_, List.pairwise_singleton _ _⟩
      · rw [visits]
        rfl
      · intro names
        rw [isReached_iff (isOpenable_file path content), isVisible_file_iff, List.mem_singleton]
  | .link target =>
      refine ⟨[], ?_, ?_, List.Pairwise.nil⟩
      · rw [visits]
        rfl
      · intro names
        simp [isReached_iff (isOpenable_link path target), not_isVisible_link]
  | .directory entries =>
      cases hpath : path.isTooLong with
      | true =>
          refine ⟨[], ?_, reaches_nil hpath⟩
          rw [visits, if_pos hpath]
          rfl
      | false =>
          have hrec : ∀ e ∈ shownInOrder entries, ∃ places,
              (e.2.visits (path.child e.1) e.1 (depth + 1)).filter isFileVisit =
                places.map (visitAt (path.child e.1) e.1 (depth + 1)) ∧
              Reaches (path.child e.1) e.2 places := by
            rintro ⟨n, s⟩ he
            obtain ⟨hmem, -⟩ := mem_shownInOrder.mp he
            exact exists_filter_visits_eq (path.child n) n (depth + 1) s
              (isProper_of_mem hproper hmem).2
          -- The places below each entry, as a function of the entry.
          choose! placesOf hvisits hreaches using hrec
          refine ⟨_, ?_, reaches_directory hproper hpath hreaches⟩
          rw [visits_directory hpath, List.filter_flatMap, List.map_flatMap]
          apply List.flatMap_congr
          intro e he
          rw [hvisits e he, List.map_map]
          apply List.map_congr_left
          intro names _
          exact (visitAt_cons path name e.1 depth names).symm
termination_by sizeOf t
decreasing_by exact sizeOf_lt_of_mem hmem

/-- A directory that a walk meets unopened is one that cannot be opened. -/
theorem exists_of_unopened_mem_visits {path p : Path} {fault : Fault} {name : FileName}
    {depth : Nat} {t : Tree} (hproper : t.isProper = true)
    (hmem : .unopened p fault ∈ t.visits path name depth) :
    ∃ names entries, t.at? names = some (.directory entries) ∧
      (path.below names).isTooLong = true := by
  match t with
  | .file content => simp [visits] at hmem
  | .link target => simp [visits] at hmem
  | .directory entries =>
      -- Only a path that is too long keeps a directory closed.
      cases hpath : path.isTooLong with
      | true => exact ⟨[], entries, rfl, hpath⟩
      | false =>
          rw [visits_directory hpath, List.mem_flatMap] at hmem
          obtain ⟨⟨n, s⟩, he, hmem⟩ := hmem
          obtain ⟨hentry, -⟩ := mem_shownInOrder.mp he
          obtain ⟨names, below, hat, hlong⟩ :=
            exists_of_unopened_mem_visits (isProper_of_mem hproper hentry).2 hmem
          refine ⟨n :: names, below, ?_, hlong⟩
          rw [at?, entryNamed?_of_mem (nodup_of_isProper hproper) hentry]
          exact hat
termination_by sizeOf t
decreasing_by exact sizeOf_lt_of_mem hentry

/-- If all directories can be opened, a walk meets the visible files in their order, and nothing
else. -/
theorem exists_visits_eq (path : Path) (name : FileName) (depth : Nat) (t : Tree)
    (hproper : t.isProper = true) (hopen : IsOpenable path t) :
    ∃ places, t.visits path name depth = places.map (visitAt path name depth) ∧
      t.Shows places := by
  obtain ⟨places, hvisits, hreaches⟩ := exists_filter_visits_eq path name depth t hproper
  have hall : (t.visits path name depth).filter isFileVisit = t.visits path name depth := by
    rw [List.filter_eq_self]
    rintro (_ | ⟨p, fault⟩) hmem
    · rfl
    · obtain ⟨names, entries, hat, hlong⟩ := exists_of_unopened_mem_visits hproper hmem
      rw [hopen names entries hat] at hlong
      cases hlong
  refine ⟨places, hall.symm.trans hvisits, ?_, hreaches.ordered⟩
  intro names
  rw [hreaches.mem_iff, isReached_iff hopen]

end Tree

end ModuleReadme
