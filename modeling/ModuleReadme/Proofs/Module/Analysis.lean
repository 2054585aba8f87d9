import ModuleReadme.Proofs.Controller.Pairing
import ModuleReadme.Proofs.Files.FileName
import ModuleReadme.Proofs.Module.Contents
import ModuleReadme.Proofs.Module.Inventory
import ModuleReadme.Proofs.Module.Scan
import ModuleReadme.Proofs.Text.Display

/-!
# What an analysis finds out

Whatever cannot be read of a module, there is a profile of it, in which each part depends on its own
files only: a controller on its source, the manifest on one `pom.xml` and the description on the
present README. A source or a manifest that cannot be read leaves its part out, and a warning says
so (`analysis_of_find`).

The README and the file with example requests are looked for by their paths and not met on the
walk. Either is found if it is there within the limits of a lookup (`Workspace.Finds`); one that is
there beyond them is passed over without a warning (`silent_beyond_maxLength`).
-/

namespace ModuleReadme

open ModuleReadme.Tree ModuleReadme.Path Workspace Readme

variable {w : Workspace} {root p : Path} {place : Place} {entries : List (FileName × Tree)}
  {name : FileName}

/-!
## What is found out

The parts of a profile, each with the files that it is made from. The sources and the manifest are
met on a walk, so they are at places below the root. The README and the file with example requests
are looked up by name in the root itself.
-/

/-- Whether a file can be read and holds a controller. -/
def Workspace.holdsController (w : Workspace) (path : Path) : Bool :=
  (w.readText path).toOption.any fun text => Controller.isMarked text.toList

/-- A controller is the one that a file holds, and is named after the file. -/
structure Controller.IsFrom (w : Workspace) (path : Path) (c : Controller) : Prop where
  source : ∃ text, w.readText path = .ok text ∧ Controller.ofText? c.name text = some c
  named : ∃ stem, path.fileName? = some (stem ++ Text.encode ".java") ∧ c.name = Text.display stem
  controller : ∃ front, c.name = front ++ "Controller"

/-- A path is that of a file below the directory at `root`. Reading it gives what the file holds,
or fails if the path itself cannot be looked up. -/
structure Workspace.ReadsBelow (w : Workspace) (root : Path) (entries : List (FileName × Tree))
    (path : Path) (names : Place) (content : Content) : Prop where
  file : (directory entries).at? names = some (.file content)
  path_eq : path = root.below names
  opened : (∀ n ∈ names, n.length ≤ maxNameLength) → path.IsUsable →
    w.readText path = content.text
  refused : ¬ path.IsUsable → ∃ fault, w.readText path = .error fault

/-- The README in the root of a module is found and cannot be read, which an event says. -/
def Workspace.WarnsOfReadme (w : Workspace) (root : Path) (place : Place)
    (entries : List (FileName × Tree)) (event : Event) : Prop :=
  ∃ content fault, w.Finds root place entries readmeName.bytes content ∧
    content.text = .error fault ∧ event = .fileSkipped (.fileRead (root.join readmeName) fault)

/-- What is known about a module whose root is the directory at a place, and what was warned of on
the way. -/
structure AnalysisOf (w : Workspace) (root : Path) (place : Place)
    (entries : List (FileName × Tree)) (inventory : Inventory) (p : Profile)
    (events : List Event) : Prop where
  name : p.name = (w.moduleName? root).getD root.display
  sources : ∀ path ∈ inventory.controllers ++ inventory.manifest.toList,
    ∃ names content, w.ReadsBelow root entries path names content
  /-- One by one and in their order, the sources that hold controllers give the controllers. -/
  controllers : List.Forall₂ (Controller.IsFrom w)
    (inventory.controllers.filter w.holdsController) p.controllers
  manifest : p.manifest =
    ((inventory.manifest.bind fun path => (w.readText path).toOption).map Manifest.ofText).getD {}
  description : ∀ d, p.description = some d ↔ ∃ content text,
    w.Finds root place entries readmeName.bytes content ∧ content.text = .ok text ∧
      (descriptionIn? text.toList).map String.ofList = some d
  mainClass : match inventory.applications with
    | [] => p.mainClass = none
    | path :: _ => ∃ stem, path.fileName? = some (stem ++ Text.encode ".java") ∧
        p.mainClass = some (Text.display stem)
  requestFile : ∀ file, p.requestFile = some file ↔ ∃ name content,
    w.moduleName? root = some name ∧ file = name ++ ".http" ∧
      w.Finds root place entries (Text.encode file) content
  configFiles : p.configFiles = inventory.configFiles
  warnings : ∃ readme : Option Event,
    (∀ event, readme = some event ↔ w.WarnsOfReadme root place entries event) ∧
      warningsAmong events = inventory.warnings.map Warning.event ++ readme.toList ++
        (inventory.controllers ++ inventory.manifest.toList).filterMap w.skipped?

/-!
## Names of files

What kind of file is met is decided by the name of its entry, and what it is called in a profile by
the name in its path. The two are the same name.
-/

/-- The path of a file that a walk meets ends with its name. -/
theorem fileName?_of_mem_visits {n : FileName} {k : Nat}
    (h : w.LeadsTo root place entries) (hproper : w.root.isProper = true)
    (hmem : .file p n k ∈ (directory entries).visits root [] 0) : p.fileName? = some n := by
  obtain ⟨names, content, -, hsteps, -⟩ :=
    exists_names_of_mem_visits [] (isProper_at? hproper h.here) h.usable.nonempty hmem
  rw [List.map_append, ← List.append_assoc] at hsteps
  exact fileName?_of_steps hsteps

/-- The stem of a source file is its name without the extension. -/
theorem stem?_of_isSuffix (word : String) (hword : Text.encode word ≠ [])
    (hname : p.fileName? = some name) (hsuffix : Text.encode (word ++ ".java") <:+ name) :
    ∃ stem, name = stem ++ Text.encode word ++ Text.encode ".java" ∧
      p.stem? = some (stem ++ Text.encode word) := by
  obtain ⟨stem, rfl⟩ := hsuffix
  refine ⟨stem, by rw [Text.encode_append, List.append_assoc], ?_⟩
  have hextension : Text.encode ".java" = dot :: Text.encode "java" := by decide
  have hdot : dot ∉ Text.encode "java" := by decide
  rw [stem?, hname, Option.map_some, Text.encode_append, ← List.append_assoc, hextension,
    stemOf_append_extension (by simp [hword]) hdot]

/-- A file that a walk meets is below the directory that is walked. -/
theorem exists_readsBelow {n : FileName} {k : Nat} (h : w.LeadsTo root place entries)
    (hproper : w.root.isProper = true)
    (hmem : .file p n k ∈ (directory entries).visits root [] 0) :
    ∃ names content, w.ReadsBelow root entries p names content := by
  obtain ⟨places, hvisits, hreaches⟩ :=
    exists_filter_visits_eq root [] 0 (directory entries) (isProper_at? hproper h.here)
  have hfile : Visit.file p n k ∈ places.map (visitAt root [] 0) := by
    rw [← hvisits]
    exact List.mem_filter.mpr ⟨hmem, rfl⟩
  obtain ⟨names, hnames, hvisit⟩ := List.mem_map.mp hfile
  have hpath : p = root.below names := by
    rw [visitAt] at hvisit
    exact (Visit.file.inj hvisit).1.symm
  obtain ⟨content, hat⟩ := ((hreaches.mem_iff names).mp hnames).visible.file
  -- A path without bytes has no name, and every file that is met has one.
  have hne : p.bytes ≠ [] := by
    intro hnil
    have hname := fileName?_of_mem_visits h hproper hmem
    rw [show p = ⟨[]⟩ from congrArg Path.mk hnil] at hname
    cases hname
  refine ⟨names, content, hat, hpath, ?_, fun hunusable => readText_of_not_isUsable hunusable hne⟩
  intro hshort husable
  rw [hpath] at husable ⊢
  exact readText_below h hproper hat hshort husable

/-!
## Controllers

Sources are read one by one and some are left out, which is a composition of two partial functions.
The profile has their results in the order of the sources.
-/

/-- The controllers of a profile are those in the files that hold one. -/
theorem controllers_profileWith (w : Workspace) (name : String) (inventory : Inventory) :
    List.Forall₂
      (fun path c => ∃ text, w.readText path = .ok text ∧
        Controller.ofText? path.stem text = some c)
      (inventory.controllers.filter w.holdsController)
      (w.profileWith name inventory).controllers := by
  -- What one source gives, read and surveyed.
  let controllerAt := fun path =>
    (w.readText path).toOption.bind (Controller.ofText? path.stem)
  have hcontrollers : (w.profileWith name inventory).controllers =
      inventory.controllers.filterMap controllerAt := by
    show List.filterMap _ (List.filterMap _ _) = _
    rw [List.filterMap_filterMap]
    apply List.filterMap_congr
    intro path _
    rw [textFile?_eq]
    cases hread : w.readText path <;> simp [controllerAt, hread, Except.toOption, TextFile.stem]
  have hholds : ∀ path, w.holdsController path = (controllerAt path).isSome := by
    intro path
    cases hread : w.readText path <;>
      simp [controllerAt, holdsController, hread, Except.toOption, Controller.isSome_ofText?]
  rw [hcontrollers, funext hholds]
  refine (Controller.forall₂_filter_filterMap controllerAt _).imp ?_
  intro path c hc
  cases hread : w.readText path with
  | error fault => simp [controllerAt, hread, Except.toOption] at hc
  | ok text => exact ⟨text, rfl, by simpa [controllerAt, hread, Except.toOption] using hc⟩

/-- A source that is listed as a controller is named after the controller in it. -/
theorem isFrom_of_mem_controllers {c : Controller} {text : String}
    (h : w.LeadsTo root place entries) (hproper : w.root.isProper = true)
    (hmem : p ∈ (w.inventoryOf root ((directory entries).visits root [] 0)).controllers)
    (hread : w.readText p = .ok text) (hc : Controller.ofText? p.stem text = some c) :
    c.IsFrom w p := by
  obtain ⟨n, k, hvisit, hkind⟩ := exists_mem_of_mem_pathsOf hmem
  have hname := fileName?_of_mem_visits h hproper hvisit
  have hsuffix := FileKind.ofName_eq_controller_iff.mp hkind
  -- The stem ends in the word, and the name of the controller is the stem.
  obtain ⟨front, rfl, hstem⟩ :=
    stem?_of_isSuffix "Controller" (by decide) hname hsuffix
  have hcname : c.name = Text.display (front ++ Text.encode "Controller") := by
    rw [Controller.name_ofText? hc, stem, hstem]
    rfl
  refine ⟨⟨text, hread, ?_⟩, ⟨_, hname, hcname⟩, Text.display front, ?_⟩
  · rw [Controller.name_ofText? hc, hc]
  · rw [hcname, Text.display_append (by decide)]

/-!
## The manifest

A manifest that cannot be read counts as an empty one.
-/

theorem manifest_profileWith (w : Workspace) (name : String) (inventory : Inventory) :
    (w.profileWith name inventory).manifest =
      ((inventory.manifest.bind fun path => (w.readText path).toOption).map
        Manifest.ofText).getD {} := by
  rw [profileWith]
  cases inventory.manifest with
  | none => rfl
  | some path =>
      simp only [Option.bind_some, textFile?_eq]
      cases w.readText path <;> rfl

/-!
## The README

Whether there is a README is asked once before it is read. A lookup that fails is an answer to
this, and so a README beyond the limits of a lookup is no README to the program.
-/

theorem description_profileAt_iff (h : w.LeadsTo root place entries) (d : String) :
    (w.profileAt root entries).description = some d ↔ ∃ content text,
      w.Finds root place entries readmeName.bytes content ∧ content.text = .ok text ∧
        (descriptionIn? text.toList).map String.ofList = some d := by
  have hread : ∀ text, w.readText (root.join readmeName) = .ok text ↔
      ∃ content, w.Finds root place entries readmeName.bytes content ∧ content.text = .ok text :=
    fun text => readText_child_eq_ok_iff h (by decide)
  rw [description_profileAt, Option.bind_eq_some_iff]
  constructor
  · rintro ⟨text, htext, hd⟩
    -- A file that cannot be read has no description, so there is a text.
    cases hreadme : w.readText (root.join readmeName) with
    | error => simp [hreadme, Except.toOption] at htext
    | ok text' =>
        obtain rfl : text' = text := by simpa [hreadme, Except.toOption] using htext
        obtain ⟨content, hfinds, hcontent⟩ := (hread text').mp hreadme
        exact ⟨content, text', hfinds, hcontent, hd⟩
  · rintro ⟨content, text, hfinds, hcontent, hd⟩
    exact ⟨text, by rw [(hread text).mpr ⟨content, hfinds, hcontent⟩]; rfl, hd⟩

/-- A README that is no file to a lookup is not read, and so it is not warned of either. -/
theorem skipped?_readme_iff (h : w.LeadsTo root place entries) (event : Event) :
    (w.ifFile (root.join readmeName)).bind w.skipped? = some event ↔
      w.WarnsOfReadme root place entries event := by
  have hproper : isProperName readmeName.bytes = true := by decide
  have hfile : w.isFile (root.join readmeName) = true ↔
      ∃ content, w.Finds root place entries readmeName.bytes content := isFile_child_iff h hproper
  -- It is tested first if there is a file at all.
  rw [ifFile]
  constructor
  · intro hsome
    split at hsome
    · next hisFile =>
      obtain ⟨content, hfinds⟩ := hfile.mp hisFile
      have hread : w.readText (root.join readmeName) = content.text :=
        hfinds.readText_eq h hproper
      rw [Option.bind_some, skipped?, hread] at hsome
      split at hsome
      · cases hsome
      · next fault hfault => exact ⟨content, fault, hfinds, hfault, (Option.some.inj hsome).symm⟩
    · cases hsome
  · rintro ⟨content, fault, hfinds, hfault, rfl⟩
    have hread : w.readText (root.join readmeName) = content.text := hfinds.readText_eq h hproper
    rw [if_pos (hfile.mpr ⟨content, hfinds⟩), Option.bind_some, skipped?, hread, hfault]

/-!
## The application and the file with example requests

Both are known by their names alone and are not read.
-/

theorem mainClass_profileAt (h : w.LeadsTo root place entries) (hproper : w.root.isProper = true) :
    match (w.inventoryOf root ((directory entries).visits root [] 0)).applications with
    | [] => (w.profileAt root entries).mainClass = none
    | path :: _ => ∃ stem, path.fileName? = some (stem ++ Text.encode ".java") ∧
        (w.profileAt root entries).mainClass = some (Text.display stem) := by
  have hmain : (w.profileAt root entries).mainClass =
      (w.inventoryOf root ((directory entries).visits root [] 0)).applications.head?.bind
        fun path => path.stem?.map Text.display := rfl
  rw [hmain]
  split
  · next hnil => rw [hnil]; rfl
  · next path rest hcons =>
    have hmem : path ∈ (w.inventoryOf root ((directory entries).visits root [] 0)).applications := by
      rw [hcons]
      exact List.mem_cons_self
    -- The first of the application files was met on the walk, under a name with the ending.
    obtain ⟨n, k, hvisit, hkind⟩ := exists_mem_of_mem_pathsOf hmem
    have hname := fileName?_of_mem_visits h hproper hvisit
    have hsuffix := FileKind.ofName_eq_application_iff.mp hkind
    obtain ⟨front, rfl, hstem⟩ :=
      stem?_of_isSuffix "Application" (by decide) hname hsuffix
    refine ⟨front ++ Text.encode "Application", hname, ?_⟩
    rw [hcons, List.head?_cons, Option.bind_some, hstem]
    rfl

/-- The file with example requests is named after the module. -/
theorem isProperName_requestFileName {name : String} (hproper : w.root.isProper = true)
    (hname : w.moduleName? root = some name) :
    isProperName (Text.encode (name ++ ".http")) = true := by
  obtain ⟨bytes, hbytes, rfl⟩ := Option.map_eq_some_iff.mp hname
  -- A name that is no text is displayed with characters in it that no byte of it stands for, but
  -- none of these is a slash.
  have hslash : slash ∉ Text.encode (Text.display bytes ++ ".http") := by
    have hchar : UInt8.ofNat ('/' : Char).toNat = slash := by decide
    rw [← hchar, Text.mem_encode_iff (by decide), String.toList_append, List.mem_append, not_or]
    constructor
    · intro hmem
      have hmem := Text.mem_of_mem_display (by decide) (by decide) hmem
      exact slash_not_mem_of_nameOf? hproper hbytes (hchar ▸ hmem)
    · decide
  -- The ending makes the name longer than a dot or two.
  have hlong : ∀ short : FileName, short.length < 5 →
      Text.encode (Text.display bytes ++ ".http") ≠ short := by
    rintro short hshort rfl
    have hhttp : (Text.encode ".http").length = 5 := by decide
    rw [Text.encode_append, List.length_append, hhttp] at hshort
    omega
  exact isProperName_iff.mpr
    ⟨hlong _ (by decide), hslash, hlong _ (by decide), hlong _ (by decide)⟩

theorem requestFile_profileAt_iff (h : w.LeadsTo root place entries)
    (hproper : w.root.isProper = true) (file : String) :
    (w.profileAt root entries).requestFile = some file ↔
      ∃ name content, w.moduleName? root = some name ∧ file = name ++ ".http" ∧
        w.Finds root place entries (Text.encode file) content := by
  rw [requestFile_profileAt]
  cases hname : w.moduleName? root with
  | none => simp
  | some name =>
      -- The name is proper, so the file is looked up as an entry of the root.
      have hproperName := isProperName_requestFileName hproper hname
      have hfile : (root.join (requestFileName name)).fileName? =
          some (Text.encode (name ++ ".http")) := fileName?_child h.usable.nonempty hproperName
      have hisFile : w.isFile (root.join (requestFileName name)) = true ↔
          ∃ content, w.Finds root place entries (Text.encode (name ++ ".http")) content :=
        isFile_child_iff h hproperName
      rw [Option.bind_some, ifFile]
      constructor
      · intro hsome
        split at hsome
        · next hfound =>
          rw [Option.bind_some, hfile, Option.map_some, Text.display_encode] at hsome
          obtain rfl := Option.some.inj hsome
          obtain ⟨content, hfinds⟩ := hisFile.mp hfound
          exact ⟨name, content, rfl, rfl, hfinds⟩
        · cases hsome
      · rintro ⟨_, content, hsame, rfl, hfinds⟩
        obtain rfl := Option.some.inj hsame
        rw [if_pos (hisFile.mpr ⟨content, hfinds⟩), Option.bind_some, hfile, Option.map_some,
          Text.display_encode]

/-!
## The analysis

The parts are put together here. For a module to be analysed its path has to lead to a directory,
and nothing has to be readable.
-/

/-- A module at a path that leads to a directory is analysed, whatever of it can be read. Each part
of what is found out depends on its own files, and there is a warning for each that is found and
cannot be read. -/
theorem analysis_of_find (hproper : w.root.isProper = true)
    (hfind : w.find root = .ok (.directory entries)) :
    ∃ place inventory p, w.LeadsTo root place entries ∧
      (w.takeInventory root).value = .ok inventory ∧ (w.profile root).value = .ok p ∧
      AnalysisOf w root place entries inventory p (w.profile root).events := by
  obtain ⟨place, hleads⟩ := exists_leadsTo hfind
  have hinventory : (w.takeInventory root).value =
      .ok (w.inventoryOf root ((directory entries).visits root [] 0)) := by
    rw [takeInventory, hleads.walk?_eq]
    rfl
  refine ⟨place, _, _, hleads, hinventory, hleads.value_profile, ?_⟩
  -- The parts of the analysis, in the order of the fields.
  constructor
  · rfl
  · intro path hpath
    rcases List.mem_append.mp hpath with hcontroller | hmanifest
    · obtain ⟨n, k, hvisit, -⟩ := exists_mem_of_mem_pathsOf hcontroller
      exact exists_readsBelow hleads hproper hvisit
    · obtain ⟨n, k, hvisit, -⟩ := exists_mem_of_manifest (Option.mem_toList.mp hmanifest)
      exact exists_readsBelow hleads hproper hvisit
  · have hboth := (List.forall₂_and_left _ _).mpr
      ⟨fun path hpath => (List.mem_filter.mp hpath).1, controllers_profileWith w (w.profileName root)
        (w.inventoryOf root ((directory entries).visits root [] 0))⟩
    refine hboth.imp ?_
    rintro path c ⟨hpath, text, hread, hc⟩
    exact isFrom_of_mem_controllers hleads hproper hpath hread hc
  · exact manifest_profileWith w _ _
  · exact description_profileAt_iff hleads
  · exact mainClass_profileAt hleads hproper
  · exact requestFile_profileAt_iff hleads hproper
  · rfl
  · refine ⟨(w.ifFile (root.join readmeName)).bind w.skipped?, skipped?_readme_iff hleads, ?_⟩
    have hreadme : ∀ path : Option Path,
        path.toList.filterMap w.skipped? = (path.bind w.skipped?).toList := by
      rintro (_ | path)
      · rfl
      · rw [Option.toList_some, List.filterMap_cons, Option.bind_some]
        cases w.skipped? path <;> rfl
    rw [warnings_profile hinventory, List.append_assoc, List.filterMap_append, ← List.append_assoc,
      hreadme]
    rfl

/-- Neither a README that is no text nor a source and a manifest that are not opened keep the other
source from being known. -/
theorem analysis_of_find_chat :
    let closed := Tree.file (.sealed .permissionDenied)
    let entries := [(Text.encode "pom.xml", closed), (readmeName.bytes, .file (.bytes ⟨#[0xFF]⟩)),
      (Text.encode "BotController.java", closed),
      (Text.encode "ChatController.java", .file "@RestController class ChatController".toUTF8)]
    let w : Workspace :=
      { root := .directory [(Text.encode "chat", .directory entries)], current := [] }
    let root := Path.ofString "chat"
    w.root.isProper = true ∧ w.find root = .ok (.directory entries) ∧
      ∃ place inventory p, w.LeadsTo root place entries ∧
        (w.takeInventory root).value = .ok inventory ∧ (w.profile root).value = .ok p ∧
        AnalysisOf w root place entries inventory p (w.profile root).events := by
  intro closed entries w root
  have hproper : w.root.isProper = true := by decide
  have hentry : w.IsEntry (Text.encode "chat") (.directory entries) :=
    ⟨⟨_, rfl, rfl⟩, by simp, by decide, by decide, ⟨by decide, by decide, by decide⟩, by decide⟩
  have hfind : w.find root = .ok (.directory entries) := hentry.find_eq
  exact ⟨hproper, hfind, analysis_of_find hproper hfind⟩

/-- A README that is no text and a file with example requests, both in the root of a module and both
under paths that are too long. The module is analysed without them and without a warning. -/
theorem silent_beyond_maxLength :
    let entries := [(readmeName.bytes, Tree.file (.bytes ⟨#[0xFF]⟩)),
      (Text.encode "m.http", .file "GET /".toUTF8)]
    let w : Workspace :=
      { root := .directory [(Text.encode "m", .directory entries)], current := [] }
    let root := dotted 2046 (Path.ofString "m")
    w.root.isProper = true ∧ w.find root = .ok (.directory entries) ∧
      w.moduleName? root = some "m" ∧ ∃ p, (w.profile root).value = .ok p ∧
        p.requestFile = none ∧ warningsAmong (w.profile root).events = [] := by
  intro entries w root
  have hproper : w.root.isProper = true := by decide
  have hlocate : ∀ purpose, w.locate purpose root = w.locate purpose (Path.ofString "m") :=
    locate_dotted (by decide) (by decide) rfl (by decide)
  have hentry : w.IsEntry (Text.encode "m") (.directory entries) :=
    ⟨⟨_, rfl, rfl⟩, by simp, by decide, by decide, ⟨by decide, by decide, by decide⟩, by decide⟩
  have hfind : w.find root = .ok (.directory entries) := by
    rw [Workspace.find, hlocate]
    exact hentry.find_eq
  have hname : w.moduleName? root = some "m" := by
    have hspelled : w.locate .spell (Path.ofString "m") = .ok [Text.encode "m"] :=
      hentry.locate_eq (by simp)
    rw [moduleName?, nameOf?, hlocate, hspelled]
    decide
  have hlength : root.bytes.length = 4093 := length_dotted 2046 (Path.ofString "m")
  have hpath : root.isTooLong = false := decide_eq_false (by rw [hlength]; decide)
  -- Two bytes are left for a slash and a name.
  have hbeyond : ∀ {name place content}, isProperName name = true → 3 ≤ name.length →
      ¬ w.Finds root place entries name content := by
    intro name place content hname hthree hfinds
    have hlong := length_le_length_child (p := root) hname
    have hshort := hfinds.usable.short
    rw [isTooLong, maxLength, decide_eq_false_iff_not] at hshort
    omega
  obtain ⟨place, hleads⟩ := exists_leadsTo hfind
  refine ⟨hproper, hfind, hname, _, hleads.value_profile, ?_, ?_⟩
  · rw [Option.eq_none_iff_forall_ne_some]
    intro file hfile
    obtain ⟨name, content, hm, rfl, hfinds⟩ :=
      (requestFile_profileAt_iff hleads hproper file).mp hfile
    refine hbeyond (isProperName_requestFileName hproper hm) ?_ hfinds
    obtain rfl : "m" = name := Option.some.inj (hname.symm.trans hm)
    decide
  · have hreadme : w.isFile (root.join readmeName) = false := by
      rw [Bool.eq_false_iff]
      intro hfile
      obtain ⟨content, hfinds⟩ :=
        (isFile_child_iff hleads (show isProperName readmeName.bytes = true by decide)).mp hfile
      exact hbeyond (by decide) (by decide) hfinds
    have hvisits : (directory entries).visits root [] 0 =
        [.file (root.child readmeName.bytes) readmeName.bytes 1,
          .file (root.child (Text.encode "m.http")) (Text.encode "m.http") 1] := by
      have hshown : shownInOrder entries = entries := List.mergeSort_of_pairwise (by decide)
      rw [visits_directory hpath, hshown]
      rfl
    have hinventory : (w.takeInventory root).value =
        .ok (w.inventoryOf root ((directory entries).visits root [] 0)) := by
      rw [takeInventory, hleads.walk?_eq]
      rfl
    rw [warnings_profile hinventory, hvisits, inventoryOf, ifFile, hreadme]
    rfl

end ModuleReadme
