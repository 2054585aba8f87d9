import ModuleReadme.Proofs.Module.Scan
import Mathlib.Data.List.MinMax
import Mathlib.Data.List.Shortlex

/-!
# The manifest of a module

A walk goes depth first and may meet a manifest deep in the tree before one that is nearer to the
root. Of all manifests that it meets the inventory has the one with the fewest names on the way to
it, and among these the one whose names come first (`manifest_of_takeInventory`): this is the order
`List.Shortlex` on places. Since the walk meets places in the order of their names, the first of the
shallowest manifests is the one that comes first in this order. A manifest below a directory that
cannot be opened is not met (`manifest_eq_none_of_unopened`).
-/

namespace ModuleReadme

open ModuleReadme.Tree ModuleReadme.Path

/-!
## The first of the shallowest

The program keeps the first path with the smallest depth, which is what `List.argmin` does. Among
places in their order the first of the shortest is the least in the shortlex order.
-/

/-- The first path with the smallest depth. -/
theorem shallowest?_eq_argmin (found : List (Path × Nat)) :
    shallowest? found = found.argmin (·.2) := by
  induction found with
  | nil => rfl
  | cons first rest ih =>
      rw [shallowest?, ih, List.argmin_cons]
      cases rest.argmin (·.2) <;> rfl

/-- What is smallest after a map is the image of what is smallest before it. -/
theorem argmin_map {α β : Type} (f : α → β) (size : β → Nat) (l : List α) :
    (l.map f).argmin size = (l.argmin (size ∘ f)).map f := by
  induction l with
  | nil => rfl
  | cons a l ih =>
      rw [List.map_cons, List.argmin_cons, List.argmin_cons, ih]
      cases l.argmin (size ∘ f) with
      | none => rfl
      | some b =>
          simp only [Option.map_some, Function.comp_apply]
          split <;> rfl

/-- What comes first in a list whose members are in order is before what comes later. -/
theorem rel_of_idxOf_le {α : Type} [DecidableEq α] {r : α → α → Prop} {l : List α} {a b : α}
    (hordered : l.Pairwise r) (ha : a ∈ l) (hb : b ∈ l) (hne : b ≠ a)
    (hle : l.idxOf a ≤ l.idxOf b) : r a b := by
  have hidx : l.idxOf a < l.idxOf b := by
    refine Nat.lt_of_le_of_ne hle fun heq => hne ?_
    exact ((List.idxOf_inj ha).mp heq).symm
  have hrel := List.pairwise_iff_getElem.mp hordered _ _ (List.idxOf_lt_length_iff.mpr ha)
    (List.idxOf_lt_length_iff.mpr hb) hidx
  rwa [List.getElem_idxOf, List.getElem_idxOf] at hrel

/-- Among places in their order, the first with the fewest names is ahead of all others: these have
more names, or as many that come later. -/
theorem shortlex_of_mem_argmin {places : List Place} {names others : Place}
    (hordered : places.Pairwise (· < ·)) (hmem : names ∈ places.argmin List.length)
    (hothers : others ∈ places) (hne : others ≠ names) :
    List.Shortlex (· < ·) names others := by
  obtain ⟨hnames, hleast, hfirst⟩ := List.mem_argmin_iff.mp hmem
  rcases Nat.lt_or_eq_of_le (hleast others hothers) with hlength | hlength
  · exact .of_length_lt hlength
  · have hle := hfirst others hothers (Nat.le_of_eq hlength.symm)
    exact .of_lex hlength (rel_of_idxOf_le hordered hnames hothers hne hle)

/-- Of two places only one is ahead of the other. -/
theorem shortlex_asymm {names others : Place} (h : List.Shortlex (· < ·) names others) :
    ¬ List.Shortlex (· < ·) others names := by
  rw [List.shortlex_def] at h ⊢
  rintro (hlength | ⟨hlength, hlt⟩)
  · omega
  · have hless : names < others := (h.resolve_left (by omega)).2
    exact List.lt_asymm hless hlt

theorem mem_argmin_length_iff {places : List Place} {names : Place}
    (hordered : places.Pairwise (· < ·)) :
    names ∈ places.argmin List.length ↔
      names ∈ places ∧ ∀ others ∈ places, others ≠ names → List.Shortlex (· < ·) names others := by
  constructor
  · intro hmem
    exact ⟨List.argmin_mem hmem, fun _ => shortlex_of_mem_argmin hordered hmem⟩
  · rintro ⟨hnames, hahead⟩
    -- There is a first one with the fewest names, and two places are not ahead of each other.
    have hsome : places.argmin List.length ≠ none := fun hnone =>
      List.ne_nil_of_mem hnames (List.argmin_eq_none.mp hnone)
    obtain ⟨first, hfirst⟩ := Option.ne_none_iff_exists'.mp hsome
    by_cases hne : first = names
    · rw [hfirst, hne, Option.mem_some]
    · have hmem := List.argmin_mem hfirst
      exact absurd (hahead first hmem hne)
        (shortlex_asymm (shortlex_of_mem_argmin hordered hfirst hnames (Ne.symm hne)))

/-!
## Manifests

Reached and visible are the same where all directories can be opened. The manifests are
characterised without this assumption, by what is reached.
-/

/-- A manifest below the directory `t` at the path `root`: a visible file named `pom.xml` to which
directories lead that can be opened. -/
structure IsManifest (root : Path) (t : Tree) (names : Place) : Prop where
  reached : IsReached root t names
  named : names.getLast? = some (Text.encode "pom.xml")

/-- The manifest that is ahead of all others: fewer names lead to it, or as many that come first. -/
structure IsNearestManifest (root : Path) (t : Tree) (names : Place) : Prop where
  isManifest : IsManifest root t names
  ahead : ∀ others, IsManifest root t others → others ≠ names →
    List.Shortlex (· < ·) names others

variable {root : Path} {t : Tree} {places : List Place} {names : Place} {visits : List Visit}

theorem isManifest_iff : IsManifest root t names ↔
    IsReached root t names ∧ names.getLast? = some (Text.encode "pom.xml") := by
  constructor
  · rintro ⟨hreached, hnamed⟩
    exact ⟨hreached, hnamed⟩
  · rintro ⟨hreached, hnamed⟩
    exact ⟨hreached, hnamed⟩

theorem isOfKind_manifest_iff :
    isOfKind .manifest names = true ↔ names.getLast? = some (Text.encode "pom.xml") := by
  have hnil : ([] : FileName) ≠ Text.encode "pom.xml" := by decide
  rw [isOfKind, decide_eq_true_iff, FileKind.ofName_eq_manifest_iff]
  cases names.getLast? with
  | none => simp [hnil]
  | some name => simp

/-- Only files are manifests. -/
theorem filterMap_manifest?_filter (visits : List Visit) :
    (visits.filter isFileVisit).filterMap Visit.manifest? = visits.filterMap Visit.manifest? := by
  rw [List.filterMap_filter]
  apply List.filterMap_congr
  rintro (_ | _) _ <;> rfl

/-- The manifests among files are found with the number of names on the way to them. -/
theorem filterMap_manifest?_visitAt (root : Path) (places : List Place) :
    (places.map (visitAt root [] 0)).filterMap Visit.manifest? =
      (places.filter (isOfKind .manifest)).map fun names => (root.below names, names.length) := by
  induction places with
  | nil => rfl
  | cons names places ih =>
      rw [List.map_cons, List.filterMap_cons, ih, List.filter_cons, isOfKind, visitAt,
        Visit.manifest?, Nat.zero_add]
      by_cases hkind : FileKind.ofName (names.getLast?.getD []) = .manifest <;> simp [hkind]

/-- The manifest of an inventory is at the first of the places with the fewest names. -/
theorem manifest_inventoryOf (w : Workspace)
    (hvisits : visits.filter isFileVisit = places.map (visitAt root [] 0)) :
    (w.inventoryOf root visits).manifest =
      ((places.filter (isOfKind .manifest)).argmin List.length).map root.below := by
  show (shallowest? (visits.filterMap Visit.manifest?)).map (·.1) = _
  rw [← filterMap_manifest?_filter, hvisits, filterMap_manifest?_visitAt, shallowest?_eq_argmin,
    argmin_map, Option.map_map]
  rfl

theorem mem_filter_isOfKind_iff (h : Reaches root t places) :
    names ∈ places.filter (isOfKind .manifest) ↔ IsManifest root t names := by
  rw [List.mem_filter, h.mem_iff, isOfKind_manifest_iff, isManifest_iff]

/-- Of the manifests that a walk reaches, the first with the fewest names is the nearest one. -/
theorem mem_argmin_iff_isNearestManifest (h : Reaches root t places) :
    names ∈ (places.filter (isOfKind .manifest)).argmin List.length ↔
      IsNearestManifest root t names := by
  rw [mem_argmin_length_iff (h.ordered.filter _)]
  simp only [mem_filter_isOfKind_iff h]
  constructor
  · rintro ⟨hmanifest, hahead⟩
    exact ⟨hmanifest, hahead⟩
  · rintro ⟨hmanifest, hahead⟩
    exact ⟨hmanifest, hahead⟩

/-- The inventory of a module has the nearest of the manifests that are reached through directories
that can be opened, and none if there is no such manifest. Where all directories can be opened,
every visible file named `pom.xml` is one. -/
theorem manifest_of_takeInventory {w : Workspace} {root : Path}
    {entries : List (FileName × Tree)} (hproper : w.root.isProper = true)
    (hfind : w.find root = .ok (.directory entries)) :
    ∃ inventory, (w.takeInventory root).value = .ok inventory ∧
      (inventory.manifest = none ↔ ∀ names, ¬ IsManifest root (.directory entries) names) ∧
      (∀ path, inventory.manifest = some path ↔
        ∃ names, IsNearestManifest root (.directory entries) names ∧ root.below names = path) ∧
      (IsOpenable root (.directory entries) → ∀ names,
        IsManifest root (.directory entries) names ↔
          (directory entries).IsVisible names ∧
            names.getLast? = some (Text.encode "pom.xml")) := by
  obtain ⟨place, hleads⟩ := Workspace.exists_leadsTo hfind
  obtain ⟨places, hvisits, hreaches⟩ :=
    exists_filter_visits_eq root [] 0 (.directory entries) (isProper_at? hproper hleads.here)
  -- The manifest of the inventory, as the place that it is at.
  have hmanifest := manifest_inventoryOf w hvisits
  refine ⟨w.inventoryOf root ((directory entries).visits root [] 0), ?_, ?_, ?_, ?_⟩
  · rw [Workspace.takeInventory, Workspace.walk?, hfind]
    rfl
  · rw [hmanifest, Option.map_eq_none_iff, List.argmin_eq_none, List.eq_nil_iff_forall_not_mem]
    simp only [mem_filter_isOfKind_iff hreaches]
  · intro path
    rw [hmanifest, Option.map_eq_some_iff]
    refine exists_congr fun names => and_congr_left fun _ => ?_
    exact mem_argmin_iff_isNearestManifest hreaches
  · intro hopen names
    rw [isManifest_iff, isReached_iff hopen]

/-- Of two manifests that are equally deep the one in `b` comes before the one in `b.x`, and both
are nearer than the one that is met first. Hidden directories, build products and links count for
nothing. -/
theorem manifest_of_takeInventory_shop :
    let name := Text.encode
    let manifest := (name "pom.xml", Tree.file (.bytes ⟨#[]⟩))
    let entries := [(name "a", .directory [(name "deep", .directory [manifest])]),
      (name "b.x", .directory [manifest]), (name "b", .directory [manifest]),
      (name ".git", .directory [manifest]), (name "target", .directory [manifest]),
      (name "pom.xml", .link (Path.ofString "b/pom.xml"))]
    let w : Workspace := { root := .directory [(name "shop", .directory entries)], current := [] }
    let root := Path.ofString "shop"
    w.root.isProper = true ∧ w.find root = .ok (.directory entries) ∧
      ∃ inventory, (w.takeInventory root).value = .ok inventory ∧
        inventory.manifest = some (Path.ofString "shop/b/pom.xml") := by
  intro name manifest entries w root
  have hproper : w.root.isProper = true := by decide
  have hentry : w.IsEntry (name "shop") (.directory entries) :=
    ⟨⟨_, rfl, rfl⟩, by simp, by decide, by decide, ⟨by decide, by decide, by decide⟩, by decide⟩
  have hfind : w.find root = .ok (.directory entries) := hentry.find_eq
  have hnearest : IsNearestManifest root (.directory entries) [name "b", name "pom.xml"] := by
    constructor
    · refine ⟨isReached_cons_iff.mpr ⟨by decide, .directory [manifest], rfl, by decide, ?_⟩, rfl⟩
      refine isReached_cons_iff.mpr ⟨by decide, .file (.bytes ⟨#[]⟩), rfl, by decide, ?_⟩
      exact (isReached_iff (isOpenable_file _ _)).mpr (isVisible_file_iff.mpr rfl)
    · -- The cases are the depths of the other manifest: none, one, two and more.
      rintro (- | ⟨first, - | ⟨second, - | ⟨third, rest⟩⟩⟩) ⟨hreached, hnamed⟩ hne
      · cases hnamed
      · -- In the module itself there is no file.
        obtain ⟨-, s, hs, -, hfile⟩ := isReached_cons_iff.mp hreached
        obtain ⟨content, rfl⟩ := isVisible_nil_iff.mp hfile.visible
        have hmem := mem_of_entryNamed? hs
        simp [entries] at hmem
      · cases hnamed
        obtain ⟨-, s, hs, hout, hbelow⟩ := isReached_cons_iff.mp hreached
        have hmem := mem_of_entryNamed? hs
        simp only [entries, List.mem_cons, Prod.mk.injEq, List.not_mem_nil, or_false] at hmem
        rcases hmem with ⟨rfl, rfl⟩ | ⟨rfl, rfl⟩ | ⟨rfl, rfl⟩ | ⟨rfl, rfl⟩ | ⟨rfl, rfl⟩ | ⟨rfl, rfl⟩
        · obtain ⟨-, s, hs, -⟩ := isReached_cons_iff.mp hbelow
          cases hs
        · exact .of_lex rfl (.rel (by decide))
        · exact absurd rfl hne
        · cases hout
        · cases hout
        · exact absurd hbelow.visible not_isVisible_link
      · exact .of_length_lt (by simp)
  obtain ⟨inventory, hvalue, -, hmanifest, -⟩ := manifest_of_takeInventory hproper hfind
  exact ⟨hproper, hfind, inventory, hvalue, (hmanifest _).mpr ⟨_, hnearest, by decide⟩⟩

/-! ## Directories that cannot be opened -/

/-- A manifest in a directory that cannot be opened, since its path is too long, is not found. -/
theorem manifest_eq_none_of_unopened :
    let name := Text.encode
    let entries := [(name "sub", Tree.directory [(name "pom.xml", .file (.bytes ⟨#[]⟩))])]
    let w : Workspace := { root := .directory [(name "m", .directory entries)], current := [] }
    let root := dotted 2046 (Path.ofString "m")
    w.root.isProper = true ∧ w.find root = .ok (.directory entries) ∧
      (directory entries).IsVisible [name "sub", name "pom.xml"] ∧
      ∃ inventory, (w.takeInventory root).value = .ok inventory ∧ inventory.manifest = none := by
  intro name entries w root
  have hproper : w.root.isProper = true := by decide
  have hlength : root.bytes.length = 4093 := length_dotted 2046 (Path.ofString "m")
  have hpath : root.isTooLong = false := by
    rw [isTooLong, hlength]
    decide
  have hfind : w.find root = .ok (.directory entries) := by
    have hentry : w.IsEntry (name "m") (.directory entries) :=
      ⟨⟨_, rfl, rfl⟩, by simp, by decide, by decide, ⟨by decide, by decide, by decide⟩, by decide⟩
    rw [Workspace.find, locate_dotted (by decide) (by decide) rfl (by decide) .find]
    exact hentry.find_eq
  have hvisible : (directory entries).IsVisible [name "sub", name "pom.xml"] :=
    ⟨⟨.bytes ⟨#[]⟩, rfl⟩, by decide, by decide⟩
  -- The path of the module is so long that only two more bytes are allowed.
  have hsub : (root.child (name "sub")).isTooLong = true := by
    have hname : isProperName (name "sub") = true := by decide
    have hthree : (name "sub").length = 3 := by decide
    have hlong := length_le_length_child (p := root) hname
    rw [isTooLong, maxLength, decide_eq_true_iff]
    omega
  have hvisits : (directory entries).visits root [] 0 =
      [.unopened (root.child (name "sub")) .nameTooLong] := by
    have hshown : shownInOrder entries = entries := List.mergeSort_singleton _
    rw [visits_directory hpath, hshown, List.flatMap_singleton, visits, if_pos hsub]
  refine ⟨hproper, hfind, hvisible,
    w.inventoryOf root ((directory entries).visits root [] 0), ?_, ?_⟩
  · rw [Workspace.takeInventory, Workspace.walk?, hfind]
    rfl
  · rw [hvisits]
    rfl

end ModuleReadme
