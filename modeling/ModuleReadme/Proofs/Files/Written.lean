import ModuleReadme.Proofs.Files.Lookup

/-!
# Lookups before and after a file was written

Writing a file makes no difference to a lookup that finds something, whatever the lookup is made for
(`Leads.follow_eq`). The only new thing that can be found afterwards is the file itself, and it is
found by the lookups that would have led to it for a write (`Leads.find_of_written`,
`Leads.write_of_written`, `find_of_write`).
-/

namespace ModuleReadme.Workspace

open ModuleReadme.Tree ModuleReadme.Path

variable {root root' : Tree} {links left : Nat} {place q written : Place} {steps : List Step}
  {target : Path}

/-!
## Two trees

A lookup asks a place whether there is a directory or a link. Neither answer is changed by a file
that comes in the place of a file or of nothing.
-/

/-- One tree looks as another one does, but for a file where the other one has a file or nothing. -/
structure Written (root root' : Tree) (written : Place) : Prop where
  same : ∀ q, q ≠ written → root'.look q = root.look q
  before : ∀ t, root.look written = some t → t.isFile
  after : ∃ content, root'.look written = some (.file content)

namespace Written

theorem look_eq_directory_iff (hw : Written root root' written) :
    root'.look place = some (.directory []) ↔ root.look place = some (.directory []) := by
  by_cases hplace : place = written
  · subst hplace
    obtain ⟨content, hafter⟩ := hw.after
    constructor
    · intro h
      rw [hafter] at h
      cases h
    · intro h
      cases hw.before _ h
  · rw [hw.same place hplace]

theorem look_eq_link_iff (hw : Written root root' written) :
    root'.look place = some (.link target) ↔ root.look place = some (.link target) := by
  by_cases hplace : place = written
  · subst hplace
    obtain ⟨content, hafter⟩ := hw.after
    constructor
    · intro h
      rw [hafter] at h
      cases h
    · intro h
      cases hw.before _ h
  · rw [hw.same place hplace]

/-- What was there is still there. -/
theorem exists_look (hw : Written root root' written) {t : Tree} (h : root.look place = some t) :
    ∃ t', root'.look place = some t' := by
  by_cases hplace : place = written
  · subst hplace
    obtain ⟨content, hafter⟩ := hw.after
    exact ⟨_, hafter⟩
  · exact ⟨t, by rw [hw.same place hplace, h]⟩

/-- No link has come and none has gone. -/
theorem link_iff (hw : Written root root' written) {t t' : Tree} (h : root.look place = some t)
    (h' : root'.look place = some t') :
    (∀ target, t ≠ .link target) ↔ ∀ target, t' ≠ .link target := by
  have hlink : ∀ target, t = .link target ↔ t' = .link target := by
    intro target
    have hiff : root'.look place = some (.link target) ↔ root.look place = some (.link target) :=
      hw.look_eq_link_iff
    rw [h, h', Option.some_inj, Option.some_inj] at hiff
    exact hiff.symm
  simp only [ne_eq, hlink]

end Written

/-!
## One lookup in both trees

Each lemma goes along the derivation that the steps lead somewhere, in the tree in which something
is found, and takes the same step in the other tree. What is delicate is the step at which the file
itself comes into view.
-/

/-- A lookup is not changed where it passed through what is there, whatever it is made for. -/
theorem Leads.follow_eq (h : Leads root links place steps left q)
    (hw : Written root root' written) (purpose : Purpose) :
    follow root' purpose links place steps = follow root purpose links place steps := by
  -- The way leads over directories and links, which the written file leaves as they were.
  induction h with
  | done => rw [follow, follow]
  | stay hdir hstep _ ih =>
      rw [follow_stay hdir hstep, follow_stay (hw.look_eq_directory_iff.mpr hdir) hstep, ih]
  | up hdir _ ih =>
      rw [follow_up hdir, follow_up (hw.look_eq_directory_iff.mpr hdir), ih]
  | enter hdir hlength hlook ht _ ih =>
      obtain ⟨t', hlook'⟩ := hw.exists_look hlook
      have ht' := (hw.link_iff hlook hlook').mp ht
      rw [follow_enter hdir hlook ht,
        follow_enter (hw.look_eq_directory_iff.mpr hdir) hlook' ht', ih]
  | link hdir hlength hlook _ ih =>
      have hlook' := hw.look_eq_link_iff.mpr hlook
      rw [follow_entry hdir, follow_entry (hw.look_eq_directory_iff.mpr hdir), hlook, hlook']
      simp only [ih]

/-- After a file was written, nothing is found that was not found before, except for the file
itself. -/
theorem Leads.find_of_written (h : Leads root' links place steps left q)
    (hw : Written root root' written) (hq : q = written → root.look written ≠ none) :
    follow root .find links place steps = .ok q := by
  induction h with
  | done => rw [follow, if_neg (by simp)]
  | stay hdir hstep _ ih => rw [follow_stay (hw.look_eq_directory_iff.mp hdir) hstep, ih hq]
  | up hdir _ ih => rw [follow_up (hw.look_eq_directory_iff.mp hdir), ih hq]
  | @enter links place name rest left q t hdir hlength hlook ht h ih =>
      obtain ⟨content, hafter⟩ := hw.after
      have hthere : root.look (place ++ [name]) ≠ none := by
        by_cases hplace : place ++ [name] = written
        · -- From the file there is no way on, so that this is where the steps lead.
          rw [hplace] at h ⊢
          exact hq (h.eq_of_file hafter).2
        · rw [← hw.same _ hplace, hlook]
          simp
      obtain ⟨s, hs⟩ := Option.ne_none_iff_exists'.mp hthere
      rw [follow_enter (hw.look_eq_directory_iff.mp hdir) hs ((hw.link_iff hs hlook).mpr ht)]
      simpa [Nat.not_lt.mpr hlength] using ih hq
  | link hdir hlength hlook _ ih =>
      rw [follow_entry (hw.look_eq_directory_iff.mp hdir), hw.look_eq_link_iff.mp hlook]
      simpa [Nat.not_lt.mpr hlength] using ih hq

/-- Where the file is found and nothing was before, the file would have been written. -/
theorem Leads.write_of_written (h : Leads root' links place steps left q)
    (hw : Written root root' written) (hq : q = written) (hnone : root.look written = none) :
    follow root .write links place steps = .ok written := by
  obtain ⟨content, hafter⟩ := hw.after
  -- A slash cannot follow, since behind it the file would have to be a directory.
  have hslash : ∀ {links place rest left}, Leads root' links place rest left q →
      rest.getLast? ≠ some .slashAtEnd := by
    intro links place rest left h hlast
    have hdir := h.look_eq_directory hlast
    rw [hq, hafter] at hdir
    cases hdir
  induction h with
  | done => rw [follow, if_neg (by simp), hq]
  | stay hdir hstep _ ih =>
      rw [follow_stay (hw.look_eq_directory_iff.mp hdir) hstep, ih hq hslash]
  | up hdir _ ih => rw [follow_up (hw.look_eq_directory_iff.mp hdir), ih hq hslash]
  | @enter links place name rest left q t hdir hlength hlook ht h ih =>
      have hdir := hw.look_eq_directory_iff.mp hdir
      by_cases hplace : place ++ [name] = written
      · -- The way is at its end.
        rw [hplace] at h
        obtain ⟨rfl, -⟩ := h.eq_of_file hafter
        rw [follow_entry hdir, hplace, hnone]
        simp [Nat.not_lt.mpr hlength]
      · have hrest : rest ≠ [.slashAtEnd] := by
          rintro rfl
          exact hslash h rfl
        rw [hw.same _ hplace] at hlook
        rw [follow_enter hdir hlook ht]
        simpa [Nat.not_lt.mpr hlength, hrest] using ih hq hslash
  | @link links place name rest left q target hdir hlength hlook h ih =>
      have hrest : rest ≠ [.slashAtEnd] := by
        rintro rfl
        exact hslash h (by simp)
      rw [follow_entry (hw.look_eq_directory_iff.mp hdir), hw.look_eq_link_iff.mp hlook]
      simpa [Nat.not_lt.mpr hlength, hrest] using ih hq hslash

end ModuleReadme.Workspace
