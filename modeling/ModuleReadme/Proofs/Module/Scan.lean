import ModuleReadme.Inventory
import ModuleReadme.Proofs.Files.Finding

/-!
# The files that an inventory lists

Where all directories can be opened, the inventory of a module lists the visible files of each kind:
all of them, nothing else, in their order, and none twice (`scanned_of_takeInventory`). The kinds
are told apart by the names of the files.
-/

namespace ModuleReadme

open ModuleReadme.Tree ModuleReadme.Path

/-!
## Kinds of files

The kinds are tested for one after another. No name passes two of the tests, so a name is of a kind
exactly if it passes the test for it.
-/

namespace FileKind

variable {name : FileName}

theorem ofName_eq_controller_iff :
    ofName name = .controller ↔ Text.encode "Controller.java" <:+ name := by
  rw [← List.isSuffixOf_iff_suffix]
  grind [ofName]

/-- No name ends both as that of a controller and as that of an application class. -/
theorem not_isSuffix_application (h : Text.encode "Controller.java" <:+ name) :
    ¬ Text.encode "Application.java" <:+ name := by
  intro happlication
  have hboth : Text.encode "Controller.java" <:+ Text.encode "Application.java" :=
    List.suffix_of_suffix_length_le h happlication (by decide)
  revert hboth
  decide

theorem ofName_eq_application_iff :
    ofName name = .application ↔ Text.encode "Application.java" <:+ name := by
  have hcontroller : Text.encode "Controller.java" <:+ name →
      ¬ Text.encode "Application.java" <:+ name := not_isSuffix_application
  rw [← List.isSuffixOf_iff_suffix, ← List.isSuffixOf_iff_suffix] at hcontroller
  rw [← List.isSuffixOf_iff_suffix]
  grind [ofName]

theorem ofName_eq_manifest_iff : ofName name = .manifest ↔ name = Text.encode "pom.xml" := by
  have hkind : ofName (Text.encode "pom.xml") = .manifest := by decide
  grind [ofName]

theorem ofName_eq_config_iff : ofName name = .config ↔ name ∈ configNames := by
  have hkinds : ∀ n ∈ configNames, ofName n = .config := by decide
  grind [ofName]

end FileKind

/-!
## Lists of files

A walk meets the visible files in their order, and the files of one kind are some of them. So each
list is in order, and files of two kinds are at different places, which have different paths.
-/

/-- Some paths are those of the visible files below a directory that are named in some way, in the
order of their places. -/
def Lists (root : Path) (t : Tree) (named : FileName → Prop) (paths : List Path) : Prop :=
  ∃ places : List Place, paths = places.map root.below ∧ places.Pairwise (· < ·) ∧
    ∀ names, names ∈ places ↔
      t.IsVisible names ∧ ∃ name, names.getLast? = some name ∧ named name

/-- An inventory lists the visible files of a module. -/
structure Scanned (root : Path) (t : Tree) (inventory : Inventory) : Prop where
  opened : inventory.warnings = []
  controllers : Lists root t (Text.encode "Controller.java" <:+ ·) inventory.controllers
  applications : Lists root t (Text.encode "Application.java" <:+ ·) inventory.applications
  configFiles : Lists root t (· ∈ configNames) inventory.configFiles
  /-- No path is listed twice, be it in one list or in two. -/
  distinct : (inventory.controllers ++ inventory.applications ++ inventory.configFiles).Nodup
  /-- On the way to a file there are directories and no links. -/
  unlinked : ∀ above below, t.IsVisible (above ++ below) → below ≠ [] →
    ∃ entries, t.at? above = some (.directory entries)

variable {root : Path} {t : Tree} {kind : FileKind} {places : List Place}
  {entries : List (FileName × Tree)}

/-- Whether the file at a place is of some kind. -/
def isOfKind (kind : FileKind) (names : Place) : Bool :=
  FileKind.ofName (names.getLast?.getD []) = kind

/-- The paths of one kind are those of the places of this kind. -/
theorem filterMap_pathOf?_visitAt (root : Path) (kind : FileKind) (places : List Place) :
    (places.map (visitAt root [] 0)).filterMap (Visit.pathOf? kind) =
      (places.filter (isOfKind kind)).map root.below := by
  induction places with
  | nil => rfl
  | cons names places ih =>
      rw [List.map_cons, List.filterMap_cons, ih, List.filter_cons, isOfKind, visitAt, Visit.pathOf?]
      by_cases hkind : FileKind.ofName (names.getLast?.getD []) = kind <;> simp [hkind]

theorem filterMap_warning?_visitAt (places : List Place) :
    (places.map (visitAt root [] 0)).filterMap Visit.warning? = [] := by
  rw [List.filterMap_map, List.filterMap_eq_nil_iff]
  intro names _
  rfl

/-- The places of one kind among those of all visible files. -/
theorem lists_filter {named : FileName → Prop} (h : (directory entries).Shows places)
    (hkind : ∀ name, FileKind.ofName name = kind ↔ named name) :
    Lists root (directory entries) named ((places.filter (isOfKind kind)).map root.below) := by
  refine ⟨_, rfl, h.ordered.filter _, ?_⟩
  intro names
  rw [List.mem_filter, h.mem_iff]
  refine and_congr_right fun hvisible => ?_
  -- The directory itself is no file, so that there is a last name.
  rw [isOfKind, List.getLast?_eq_some_getLast hvisible.ne_nil, Option.getD_some]
  simp [hkind]

/-- Visible files of different kinds have different paths, and so have different files of one
kind. -/
theorem nodup_filter (h : (directory entries).Shows places)
    (hproper : (directory entries).isProper = true) (hroot : root.bytes ≠ []) :
    ((places.filter (isOfKind .controller)).map root.below ++
      (places.filter (isOfKind .application)).map root.below ++
      (places.filter (isOfKind .config)).map root.below).Nodup := by
  have hnodup : places.Nodup := by
    refine h.ordered.imp ?_
    rintro a b hab rfl
    exact List.lt_irrefl a hab
  -- A place is of one kind only.
  have hdisjoint : ∀ {k l : FileKind}, k ≠ l → ∀ names ∈ places.filter (isOfKind k),
      ∀ others ∈ places.filter (isOfKind l), names ≠ others := by
    rintro k l hkl names hk _ hl rfl
    have hk := (List.mem_filter.mp hk).2
    have hl := (List.mem_filter.mp hl).2
    simp only [isOfKind, decide_eq_true_eq] at hk hl
    exact hkl (hk.symm.trans hl)
  rw [← List.map_append, ← List.map_append]
  -- Different places have different paths, so it is enough to look at places.
  apply List.Nodup.map_on
  · intro names hnames others hothers heq
    have hmem : ∀ {names}, names ∈ places.filter (isOfKind .controller) ++
        places.filter (isOfKind .application) ++ places.filter (isOfKind .config) →
        ∀ name ∈ names, isProperName name = true := by
      intro names hnames
      have hplaces : names ∈ places := by
        simp only [List.mem_append, List.mem_filter] at hnames
        rcases hnames with (hnames | hnames) | hnames <;> exact hnames.1
      obtain ⟨content, hat⟩ := ((h.mem_iff names).mp hplaces).file
      exact isProperName_of_at? hproper hat
    exact below_injective hroot (hmem hnames) (hmem hothers) heq
  · rw [List.nodup_append, List.nodup_append]
    refine ⟨⟨hnodup.filter _, hnodup.filter _, hdisjoint (by simp)⟩, hnodup.filter _, ?_⟩
    intro names hnames
    rcases List.mem_append.mp hnames with hnames | hnames
    · exact hdisjoint (by simp) names hnames
    · exact hdisjoint (by simp) names hnames

/-- An inventory of the files that a walk meets lists the visible ones. -/
theorem scanned_inventoryOf (w : Workspace) (h : (directory entries).Shows places)
    (hproper : (directory entries).isProper = true) (hroot : root.bytes ≠ []) :
    Scanned root (directory entries) (w.inventoryOf root (places.map (visitAt root [] 0))) := by
  have hlisted : ∀ kind, (places.map (visitAt root [] 0)).filterMap (Visit.pathOf? kind) =
      (places.filter (isOfKind kind)).map root.below :=
    fun kind => filterMap_pathOf?_visitAt root kind places
  have hlists : ∀ {kind : FileKind} {named : FileName → Prop},
      (∀ name, FileKind.ofName name = kind ↔ named name) → Lists root (directory entries) named
        ((places.map (visitAt root [] 0)).filterMap (Visit.pathOf? kind)) := by
    intro kind named hkind
    rw [hlisted]
    exact lists_filter h hkind
  constructor
  · exact filterMap_warning?_visitAt places
  · exact hlists fun _ => FileKind.ofName_eq_controller_iff
  · exact hlists fun _ => FileKind.ofName_eq_application_iff
  · exact hlists fun _ => FileKind.ofName_eq_config_iff
  · show (List.filterMap _ _ ++ List.filterMap _ _ ++ List.filterMap _ _).Nodup
    rw [hlisted, hlisted, hlisted]
    exact nodup_filter h hproper hroot
  · intro above below hvisible hne
    exact hvisible.directory_of_append hne

/-- The inventory of a module whose directories can all be opened lists the visible files. Where
there is no directory, no inventory is taken. -/
theorem scanned_of_takeInventory {w : Workspace} {root : Path} (hproper : w.root.isProper = true)
    (hopen : ∀ t, w.find root = .ok t → IsOpenable root t) :
    (∀ entries, w.find root = .ok (.directory entries) →
      ∃ inventory, (w.takeInventory root).value = .ok inventory ∧
        Scanned root (.directory entries) inventory) ∧
    ((∀ entries, w.find root ≠ .ok (.directory entries)) →
      ∃ reason, (w.takeInventory root).value = .error (.invalidInput reason)) := by
  constructor
  · intro entries hfind
    obtain ⟨place, hleads⟩ := Workspace.exists_leadsTo hfind
    have hdirectory := isProper_at? hproper hleads.here
    obtain ⟨places, hvisits, hshows⟩ :=
      exists_visits_eq root [] 0 (.directory entries) hdirectory (hopen _ hfind)
    refine ⟨_, ?_, scanned_inventoryOf w hshows hdirectory hleads.usable.nonempty⟩
    rw [Workspace.takeInventory, Workspace.walk?, hfind]
    simp only [hvisits]
    rfl
  · intro hnone
    -- Without a directory there is no walk.
    have hwalk : w.walk? root = none := by
      unfold Workspace.walk?
      split
      · next entries hfind => exact absurd hfind (hnone entries)
      · rfl
    rw [Workspace.takeInventory, hwalk]
    exact ⟨_, rfl⟩

/-- Build products, files behind links and hidden files are not listed, and a file may be named as
directories of build products are. -/
theorem scanned_of_takeInventory_chat :
    let name := Text.encode
    let source := Tree.directory [(name "target", .file (.bytes ⟨#[]⟩)),
      (name "ChatController.java", .file (.bytes ⟨#[]⟩))]
    let entries := [(name "target", .directory [(name "OldController.java", .file (.bytes ⟨#[]⟩))]),
      (name "src", source), (name "LinkController.java", .link (Path.ofString "src")),
      (name ".HiddenController.java", .file (.bytes ⟨#[]⟩)),
      (name "application.yml", .file (.bytes ⟨#[]⟩))]
    let w : Workspace := { root := .directory [(name "chat", .directory entries)], current := [] }
    let root := Path.ofString "chat"
    w.root.isProper = true ∧ (∀ t, w.find root = .ok t → IsOpenable root t) ∧
      w.find root = .ok (.directory entries) ∧
      ∃ inventory, (w.takeInventory root).value = .ok inventory ∧
        Scanned root (.directory entries) inventory := by
  intro name source entries w root
  have hproper : w.root.isProper = true := by decide
  have hentry : w.IsEntry (name "chat") (.directory entries) :=
    ⟨⟨_, rfl, rfl⟩, by simp, by decide, by decide, ⟨by decide, by decide, by decide⟩, by decide⟩
  have hfind : w.find root = .ok (.directory entries) := hentry.find_eq
  have hopen : ∀ t, w.find root = .ok t → IsOpenable root t := by
    intro t ht
    rw [hfind] at ht
    cases ht
    -- Nothing but directories has to be opened.
    have hold : IsOpenable (root.child (name "target")) (.directory [(name "OldController.java",
        .file (.bytes ⟨#[]⟩))]) := by
      apply isOpenable_directory (by decide)
      simp [isOpenable_file]
    have hsource : IsOpenable (root.child (name "src")) source := by
      apply isOpenable_directory (by decide)
      simp [isOpenable_file]
    apply isOpenable_directory (by decide)
    intro e he
    simp only [entries, List.mem_cons, List.not_mem_nil, or_false] at he
    rcases he with rfl | rfl | rfl | rfl | rfl
    · exact hold
    · exact hsource
    · exact isOpenable_link _ _
    · exact isOpenable_file _ _
    · exact isOpenable_file _ _
  exact ⟨hproper, hopen, hfind, (scanned_of_takeInventory hproper hopen).1 entries hfind⟩

end ModuleReadme
