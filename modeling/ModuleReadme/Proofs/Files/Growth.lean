import ModuleReadme.Proofs.Files.Writing

/-!
# What is left behind when a file is saved

A directory is made, and a file is created, in a directory that is there and at a place where
nothing is (`leads_or_opens`). So making directories takes nothing away and changes nothing that was
there (`grows_makeDirectoriesFrom`), and whatever is new is a directory to which one of the paths
leads that were to be made. Saving a file adds the file itself to this, or replaces the one that was
there (`savesAt_of_save`).
-/

namespace ModuleReadme

/-!
## The directories of a path

Those that are tried when a file is saved: the parent of its path, the parent of that, and so on.
-/

/-- The directories that a path names above its last component. -/
def Path.directories (p : Path) : List Path := (p.directory?.map ancestors).getD []

/-- What names a directory above a path is what the path begins with. -/
theorem Path.isPrefix_of_mem_directories {p d : Path} (h : d ∈ p.directories) :
    d.bytes <+: p.bytes := by
  rw [directories] at h
  cases hdirectory : p.directory? with
  | none =>
      rw [hdirectory] at h
      cases h
  | some e =>
      rw [hdirectory] at h
      obtain ⟨hparent, -⟩ := Option.filter_eq_some_iff.mp hdirectory
      exact (isPrefix_of_mem_ancestors h).trans (isPrefix_of_parent? hparent)

namespace Workspace

open ModuleReadme.Tree ModuleReadme.Path

/-!
## Places where nothing is

A lookup for a write or a creation can end where nothing is. Its steps lead nowhere then, and what
can be said of them is where they will lead in a tree that has something there and has lost
nothing.
-/

variable {root root' : Tree} {purpose : Purpose} {links left : Nat} {place q : Place}
  {steps : List Step}

/-- Everything in one tree is in another one and looks the same there. -/
def Keeps (root root' : Tree) : Prop := ∀ q t, root.look q = some t → root'.look q = some t

/-- Steps lead to the same place where everything is kept. -/
theorem Leads.mono (h : Leads root links place steps left q) (hkeeps : Keeps root root') :
    Leads root' links place steps left q := by
  induction h with
  | done => exact .done
  | stay hdir hstep _ ih => exact .stay (hkeeps _ _ hdir) hstep ih
  | up hdir _ ih => exact .up (hkeeps _ _ hdir) ih
  | enter hdir hlength hlook ht _ ih =>
      exact .enter (hkeeps _ _ hdir) hlength (hkeeps _ _ hlook) ht ih
  | link hdir hlength hlook _ ih => exact .link (hkeeps _ _ hdir) hlength (hkeeps _ _ hlook) ih

/-- The steps lead to a place in a directory where nothing is. They lead there as soon as something
is there, which has to be a directory where one is to be created. -/
structure Opens (root : Tree) (purpose : Purpose) (links : Nat) (place : Place) (steps : List Step)
    (q : Place) : Prop where
  missing : root.look q = none
  above : ∃ p name, q = p ++ [name] ∧ root.look p = some (.directory [])
  leads : ∀ root' t, Keeps root root' → root'.look q = some t → (∀ target, t ≠ .link target) →
    (purpose = .create → t = .directory []) → ∃ left, Leads root' links place steps left q

/-- A step in front of steps that lead somewhere, or to an open place. -/
theorem leads_or_opens_imp {links' : Nat} {place' : Place} {steps' : List Step}
    (hstep : ∀ root' left, Keeps root root' → Leads root' links place steps left q →
      Leads root' links' place' steps' left q)
    (h : (∃ left, Leads root links place steps left q) ∨ Opens root purpose links place steps q) :
    (∃ left, Leads root links' place' steps' left q) ∨
      Opens root purpose links' place' steps' q := by
  rcases h with ⟨left, h⟩ | h
  · exact .inl ⟨left, hstep root left (fun _ _ hq => hq) h⟩
  · refine .inr ⟨h.missing, h.above, ?_⟩
    intro root' t hkeeps hlook ht hcreate
    obtain ⟨left, hleads⟩ := h.leads root' t hkeeps hlook ht hcreate
    exact ⟨left, hstep root' left hkeeps hleads⟩

/-- A place for a file or for a new entry is where the steps lead, or is open. -/
theorem leads_or_opens (hpurpose : purpose = .write ∨ purpose = .create)
    (h : follow root purpose links place steps = .ok q) :
    (∃ left, Leads root links place steps left q) ∨ Opens root purpose links place steps q := by
  -- All steps but the last are those of `Leads`. At the last one the entry may be missing.
  fun_induction follow root purpose links place steps with
  | case1 => cases h
  | case2 links place =>
      cases h
      exact .inl ⟨links, .done⟩
  | case3 links place rest entries hat ih =>
      have hdir := look_eq_directory_iff.mpr ⟨entries, hat⟩
      apply leads_or_opens_imp _ (ih h)
      intro root' left hkeeps hleads
      exact .stay (hkeeps _ _ hdir) (.inl rfl) hleads
  | case4 links place rest entries hat ih =>
      have hdir := look_eq_directory_iff.mpr ⟨entries, hat⟩
      apply leads_or_opens_imp _ (ih h)
      intro root' left hkeeps hleads
      exact .stay (hkeeps _ _ hdir) (.inr rfl) hleads
  | case5 links place rest entries hat ih =>
      have hdir := look_eq_directory_iff.mpr ⟨entries, hat⟩
      apply leads_or_opens_imp _ (ih h)
      intro root' left hkeeps hleads
      exact .up (hkeeps _ _ hdir) hleads
  | case8 links place rest entries hat name hwrite hlength hentry hend =>
      cases h
      have hdir := look_eq_directory_iff.mpr ⟨entries, hat⟩
      refine .inr ⟨?_, ⟨place, name, rfl, hdir⟩, ?_⟩
      · rw [look_concat hat, hentry, Option.map_none]
      · intro root' t hkeeps hlook ht hcreate
        have hname : name.length ≤ maxNameLength := by omega
        rcases hend with ⟨rfl, -⟩ | ⟨rfl, hc⟩
        · exact ⟨links, .enter (hkeeps _ _ hdir) hname hlook ht .done⟩
        · rw [hcreate hc] at hlook
          exact ⟨links, .enter (hkeeps _ _ hdir) hname hlook (by simp)
            (.stay hlook (.inr rfl) .done)⟩
  | case11 links place rest entries hat name hwrite hlength target hentry hcreate htake =>
      rcases hpurpose with rfl | rfl <;> cases htake.2
  | case13 place rest entries hat name hwrite hlength target hentry hcreate htake links ih =>
      have hdir := look_eq_directory_iff.mpr ⟨entries, hat⟩
      have hlook := look_concat hat name
      rw [hentry] at hlook
      apply leads_or_opens_imp _ (ih h)
      intro root' left hkeeps hleads
      exact .link (hkeeps _ _ hdir) (by omega) (hkeeps _ _ hlook) hleads
  | case14 links place rest entries hat name hwrite hlength t ht hentry ih =>
      have hdir := look_eq_directory_iff.mpr ⟨entries, hat⟩
      have hlook := look_concat hat name
      rw [hentry] at hlook
      apply leads_or_opens_imp _ (ih h)
      intro root' left hkeeps hleads
      exact .enter (hkeeps _ _ hdir) (by omega) (hkeeps _ _ hlook) (shallow_ne_link ht) hleads
  | _ => cases h

/-- Steps that are taken lead into a directory, or to something in a directory. -/
theorem Leads.look_eq (h : Leads root links place steps left q) (hne : steps ≠ []) :
    root.look q = some (.directory []) ∨ ∃ p name t, q = p ++ [name] ∧
      root.look p = some (.directory []) ∧ root.look q = some t ∧ ∀ target, t ≠ .link target := by
  -- What matters is the last step, so every rule but the first asks if there are more.
  induction h with
  | done => exact absurd rfl hne
  | @stay links place step rest left q hdir _ h ih =>
      rcases rest with - | ⟨s, rest⟩
      · cases h
        exact .inl hdir
      · exact ih (List.cons_ne_nil s rest)
  | @up links place rest left q hdir h ih =>
      rcases rest with - | ⟨s, rest⟩
      · cases h
        exact .inl (look_dropLast hdir)
      · exact ih (List.cons_ne_nil s rest)
  | @enter links place name rest left q t hdir _ hlook ht h ih =>
      rcases rest with - | ⟨s, rest⟩
      · cases h
        exact .inr ⟨place, name, t, rfl, hdir, hlook, ht⟩
      · exact ih (List.cons_ne_nil s rest)
  | @link links place name rest left q target hdir _ _ h ih =>
      by_cases hsteps : target.steps ++ rest = []
      · -- A link without any steps leads to where it is, or to the root.
        rw [hsteps] at h
        cases h
        split
        · exact .inl (look_nil hdir)
        · exact .inl hdir
      · exact ih hsteps

/-!
## Workspaces that grow

Growing is transitive, which is what makes it the invariant of making one directory after another.
-/

variable {w w₁ w₂ : Workspace} {p : Path} {paths more : List Path}

/-- A workspace has everything that another one has, and besides at most directories to which some
paths lead. -/
structure Grows (w w₁ : Workspace) (paths : List Path) : Prop where
  current : w₁.current = w.current
  keeps : Keeps w.root w₁.root
  new : ∀ q t, w₁.root.look q = some t → w.root.look q = none →
    t = .directory [] ∧ ∃ d ∈ paths, w₁.locate .find d = .ok q

theorem locate_find_iff : w.locate .find p = .ok q ↔
    p.IsUsable ∧ ∃ left, Leads w.root maxLinks (w.start p) p.steps left q := by
  constructor
  · intro h
    have husable := isUsable_of_locate h (by simp)
    rw [locate_of_isUsable husable] at h
    exact ⟨husable, exists_leads h⟩
  · rintro ⟨husable, left, hleads⟩
    rw [locate_of_isUsable husable, hleads.follow_find]

theorem start_eq (h : w₁.current = w.current) (p : Path) : w₁.start p = w.start p := by
  rw [start, start, h]

/-- What is found is found at the same place where everything is kept. -/
theorem Grows.locate_find (h : w.Grows w₁ paths) (hfind : w.locate .find p = .ok q) :
    w₁.locate .find p = .ok q := by
  obtain ⟨husable, left, hleads⟩ := locate_find_iff.mp hfind
  rw [← start_eq h.current] at hleads
  exact locate_find_iff.mpr ⟨husable, left, hleads.mono h.keeps⟩

theorem grows_refl (w : Workspace) (paths : List Path) : w.Grows w paths where
  current := rfl
  keeps _ _ hq := hq
  new q t ht hq := by
    rw [hq] at ht
    cases ht

theorem Grows.trans (h : w.Grows w₁ paths) (h₁ : w₁.Grows w₂ more)
    (hsub : ∀ d ∈ more, d ∈ paths) : w.Grows w₂ paths where
  current := h₁.current.trans h.current
  keeps q t hq := h₁.keeps q t (h.keeps q t hq)
  new q t ht hq := by
    cases hmid : w₁.root.look q with
    | none =>
        obtain ⟨hdir, d, hd, hlocate⟩ := h₁.new q t ht hmid
        exact ⟨hdir, d, hsub d hd, hlocate⟩
    | some s =>
        obtain ⟨hdir, d, hd, hlocate⟩ := h.new q s hmid hq
        have hsame : w₂.root.look q = some s := h₁.keeps q s hmid
        rw [ht, Option.some_inj] at hsame
        exact ⟨hsame.trans hdir, d, hd, h₁.locate_find hlocate⟩

theorem Grows.mono (h : w.Grows w₁ more) (hsub : ∀ d ∈ more, d ∈ paths) : w.Grows w₁ paths :=
  (grows_refl w paths).trans h hsub

/-!
## Making directories

The directories of a path are made from the first one that is missing on. A failure half way leaves
behind those that were made before, so the lemma is about the workspace and not about the result.
-/

/-- A directory that is made is new. -/
theorem grows_makeDirectory (h : w.makeDirectory p = .ok w₁) : w.Grows w₁ [p] := by
  obtain ⟨q, hlocate, rfl⟩ : ∃ q, w.locate .create p = .ok q ∧ w.put q (.directory []) = w₁ := by
    unfold makeDirectory create at h
    cases hq : w.locate .create p with
    | error fault =>
        rw [hq] at h
        cases h
    | ok q =>
        rw [hq] at h
        exact ⟨q, rfl, Except.ok.inj h⟩
  have husable := isUsable_of_locate hlocate (by simp)
  rw [locate_of_isUsable husable] at hlocate
  -- What is there already cannot be created.
  have hopens : Opens w.root .create maxLinks (w.start p) p.steps q := by
    apply (leads_or_opens (.inr rfl) hlocate).resolve_left
    rintro ⟨left, hleads⟩
    rw [hleads.follow_create] at hlocate
    cases hlocate
  obtain ⟨above, name, rfl, habove⟩ := hopens.above
  obtain ⟨entries, hat⟩ := look_eq_directory_iff.mp habove
  have hentry : entryNamed? name entries = none := by
    have hmissing := hopens.missing
    rwa [look_concat hat, Option.map_eq_none_iff] at hmissing
  have hlook : ∀ r, (w.put (above ++ [name]) (.directory [])).root.look r =
      if r = above ++ [name] then some (.directory []) else w.root.look r := by
    apply look_put_shallow hat
    · intro s hs
      rw [hentry] at hs
      cases hs
    · rfl
  -- Nothing was at the place, so nothing that was there is covered up.
  have hkeeps : Keeps w.root (w.put (above ++ [name]) (.directory [])).root := by
    intro r t hr
    rw [hlook, if_neg, hr]
    rintro rfl
    rw [hopens.missing] at hr
    cases hr
  refine ⟨rfl, hkeeps, ?_⟩
  intro r t ht hr
  rw [hlook] at ht
  split at ht
  · next heq =>
    obtain rfl := Option.some.inj ht
    have hthere := hlook (above ++ [name])
    rw [if_pos rfl] at hthere
    obtain ⟨left, hleads⟩ := hopens.leads _ _ hkeeps hthere (by simp) fun _ => rfl
    rw [heq]
    exact ⟨rfl, p, List.mem_singleton_self p, locate_find_iff.mpr ⟨husable, left, hleads⟩⟩
  · rw [hr] at ht
    cases ht

/-- Of the directories that are to be made, some may be made even if not all of them can be. -/
theorem grows_makeDirectoriesFrom (w : Workspace) (paths : List Path) :
    w.Grows (w.makeDirectoriesFrom paths).1 paths := by
  fun_induction makeDirectoriesFrom w paths with
  | case1 => exact grows_refl w []
  | case2 p above w₁ hmake =>
      exact (grows_makeDirectory hmake).mono (by simp)
  | case3 p above hmake w₁ fault hfrom ih =>
      rw [hfrom] at ih
      exact ih.mono fun d hd => List.mem_cons_of_mem p hd
  | case4 p above hmake w₁ hfrom w₂ hmake₂ ih =>
      rw [hfrom] at ih
      exact (ih.mono fun d hd => List.mem_cons_of_mem p hd).trans (grows_makeDirectory hmake₂)
        (by simp)
  | case5 p above hmake w₁ hfrom fault hmake₂ ih =>
      rw [hfrom] at ih
      exact ih.mono fun d hd => List.mem_cons_of_mem p hd
  | case6 p above fault hne hmake => exact grows_refl w _

/-!
## Writing a file

The same as for a file in a directory that is known to be there, but from the lookup alone: that
there is a directory follows from its success.
-/

/-- A file is written in a directory, in the place of a file or of nothing. -/
theorem exists_of_locate_write (hlocate : w.locate .write p = .ok q)
    (hdirectory : ∀ entries, w.root.at? q ≠ some (.directory entries)) :
    ∃ above name entries, q = above ++ [name] ∧ w.root.at? above = some (.directory entries) ∧
      ∀ s, entryNamed? name entries = some s → s.isFile := by
  have husable := isUsable_of_locate hlocate (by simp)
  rw [locate_of_isUsable husable] at hlocate
  -- Something is at the place, or it is open.
  rcases leads_or_opens (.inl rfl) hlocate with ⟨left, hleads⟩ | hopens
  · rcases hleads.look_eq (steps_ne_nil husable.nonempty) with
      hdir | ⟨above, name, t, rfl, habove, hlook, hlink⟩
    · obtain ⟨entries, hat⟩ := look_eq_directory_iff.mp hdir
      exact absurd hat (hdirectory entries)
    · obtain ⟨entries, hat⟩ := look_eq_directory_iff.mp habove
      refine ⟨above, name, entries, rfl, hat, ?_⟩
      intro s hs
      rw [look_concat hat, hs, Option.map_some, Option.some_inj] at hlook
      cases s with
      | file => rfl
      | link target => exact absurd hlook.symm (hlink target)
      | directory below =>
          rw [at?_concat hat, hs] at hdirectory
          exact absurd rfl (hdirectory below)
  · obtain ⟨above, name, rfl, habove⟩ := hopens.above
    obtain ⟨entries, hat⟩ := look_eq_directory_iff.mp habove
    refine ⟨above, name, entries, rfl, hat, ?_⟩
    intro s hs
    have hmissing := hopens.missing
    rw [look_concat hat, hs] at hmissing
    cases hmissing

/-- Where a file can be written it is found once it is there. -/
theorem locate_find_of_written (hlocate : w.locate .write p = .ok q)
    (hwritten : Written w.root w₁.root q) (hcurrent : w₁.current = w.current) :
    w₁.locate .find p = .ok q := by
  have husable := isUsable_of_locate hlocate (by simp)
  rw [locate_of_isUsable husable] at hlocate
  rcases leads_or_opens (.inl rfl) hlocate with ⟨left, hleads⟩ | hopens
  · rw [locate_of_isUsable husable, start_eq hcurrent, hleads.follow_eq hwritten,
      hleads.follow_find]
  · -- Nothing stood at the place, so nothing is replaced.
    have hkeeps : Keeps w.root w₁.root := by
      intro r t hr
      rw [hwritten.same r, hr]
      rintro rfl
      rw [hopens.missing] at hr
      cases hr
    obtain ⟨content, hafter⟩ := hwritten.after
    obtain ⟨left, hleads⟩ := hopens.leads _ _ hkeeps hafter (by simp) (by simp)
    rw [← start_eq hcurrent] at hleads
    exact locate_find_iff.mpr ⟨husable, left, hleads⟩

/-- A file that is written is found where it was written, and nothing else is changed. -/
theorem written_of_writeFile {content : ByteArray} (h : w.writeFile p content = .ok w₁) :
    ∃ place, Written w.root w₁.root place ∧ w₁.current = w.current ∧
      w₁.locate .find p = .ok place ∧ w₁.root.look place = some (.file content) := by
  unfold writeFile at h
  split at h
  · cases h
  · next place hlocate =>
    split at h
    · cases h
    · cases h
    · next hdirectory _ =>
      cases h
      -- The place is an entry of a directory, new or a file already.
      obtain ⟨above, name, entries, rfl, hat, hfile⟩ :=
        exists_of_locate_write hlocate fun entries hentries => hdirectory entries hentries
      have hwritten := written_put hat hfile content
      refine ⟨_, hwritten, rfl, locate_find_of_written hlocate hwritten rfl, ?_⟩
      rw [put, look_put hat hfile, if_pos rfl]

/-!
## Saving a file

First the directories are made and then the file is written. What the first step leaves behind is
still found after the second, because a lookup does not care for what is in a file.
-/

theorem grows_prepare (w : Workspace) (p : Path) : w.Grows (w.prepare p).1 p.directories := by
  rw [prepare, directories]
  cases p.directory? with
  | none => exact grows_refl w _
  | some d =>
      have hgrows : w.Grows (w.makeDirectories d).1 d.ancestors :=
        grows_makeDirectoriesFrom w d.ancestors
      rcases hmake : w.makeDirectories d with ⟨w₁, fault | ⟨⟩⟩
      · simpa [hmake] using hgrows
      · simpa [hmake] using hgrows

/-- One workspace is another one with a file saved at a place, to which its path leads. -/
structure SavesAt (w w₁ : Workspace) (p : Path) (content : ByteArray) (place : Place) : Prop where
  current : w₁.current = w.current
  found : w₁.locate .find p = .ok place
  saved : w₁.root.at? place = some (.file content)
  /-- Nothing but a file is replaced. -/
  before : ∀ t, w.root.look place = some t → t.isFile
  /-- Everything else that was there is there and looks the same. -/
  keeps : ∀ q t, q ≠ place → w.root.look q = some t → w₁.root.look q = some t
  /-- What is new besides are directories that the path names. -/
  new : ∀ q t, q ≠ place → w₁.root.look q = some t → w.root.look q = none →
    t = .directory [] ∧ ∃ d ∈ p.directories, w₁.locate .find d = .ok q

/-- A file that is saved is all that is changed, but for the directories that are made for it. -/
theorem savesAt_of_save {text : String} (h : w.save p text = (w₁, .ok ())) :
    ∃ place, w.SavesAt w₁ p text.toUTF8 place := by
  have hgrows := grows_prepare w p
  unfold save at h
  split at h
  · cases h
  · next w₂ hprepare =>
    rw [hprepare] at hgrows
    split at h
    · next w₃ hwrite =>
      cases h
      obtain ⟨place, hwritten, hcurrent, hfound, hlook⟩ := written_of_writeFile hwrite
      refine ⟨place, hcurrent.trans hgrows.current, hfound, look_eq_file_iff.mp hlook, ?_, ?_, ?_⟩
      · intro t ht
        exact hwritten.before t (hgrows.keeps place t ht)
      · intro q t hq ht
        rw [hwritten.same q hq]
        exact hgrows.keeps q t ht
      · intro q t hq ht hnone
        rw [hwritten.same q hq] at ht
        obtain ⟨hdir, d, hd, hlocate⟩ := hgrows.new q t ht hnone
        -- The directory is still found where it was made.
        obtain ⟨husable, left, hleads⟩ := locate_find_iff.mp hlocate
        refine ⟨hdir, d, hd, ?_⟩
        rw [locate_of_isUsable husable, start_eq hcurrent, hleads.follow_eq hwritten,
          hleads.follow_find]
    · cases h

/-- Where a file cannot be saved, directories at most have been made for it. -/
theorem grows_of_save {text : String} {error : Error} (h : w.save p text = (w₁, .error error)) :
    w.Grows w₁ p.directories := by
  have hgrows := grows_prepare w p
  unfold save at h
  split at h
  · next hprepare =>
    cases h
    rwa [hprepare] at hgrows
  · next hprepare =>
    rw [hprepare] at hgrows
    split at h
    · cases h
    · cases h
      exact hgrows

end Workspace

end ModuleReadme
