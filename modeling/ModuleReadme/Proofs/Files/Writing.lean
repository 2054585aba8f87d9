import ModuleReadme.Files.TextFile
import ModuleReadme.Proofs.Files.Path
import ModuleReadme.Proofs.Files.Written

/-!
# Writing a file into a directory

A file that is saved in a directory that is there changes this directory and nothing else, since no
directory has to be made for it (`save_child`). Whether it can be saved depends on its path only
(`Path.IsWritable`), so that a file that was saved once can be saved again.
-/

namespace ModuleReadme

/-!
## Usable paths

These are conditions on the bytes of a path, and no file system is needed to decide them.
-/

namespace Path

/-- A path that can be looked up. -/
structure IsUsable (p : Path) : Prop where
  nonzero : p.bytes.contains 0 = false
  nonempty : p.bytes ≠ []
  short : p.isTooLong = false

end Path

namespace Workspace

open ModuleReadme.Tree ModuleReadme.Path

variable {w : Workspace} {p : Path} {purpose : Purpose} {place q : Place} {name : FileName}
  {entries : List (FileName × Tree)} {content : Content}

/-!
## Directories that are there

`LeadsTo` keeps what a successful lookup of a directory tells: that its path is usable, that its
steps lead to a place, and which entries are there. All that follows starts from it.
-/

/-- The place where the steps of a path begin. -/
def start (w : Workspace) (p : Path) : Place := if p.isAbsolute then [] else w.current

theorem locate_of_isUsable (h : p.IsUsable) (purpose : Purpose) :
    w.locate purpose p = follow w.root purpose maxLinks (w.start p) p.steps := by
  have hempty : p.bytes.isEmpty = false := by simpa using h.nonempty
  rw [locate, h.nonzero, hempty, h.short]
  rfl

theorem isUsable_of_locate (h : w.locate purpose p = .ok q) (hpurpose : purpose ≠ .spell) :
    p.IsUsable := by
  unfold locate at h
  split at h
  · cases h
  · next hzero =>
    split at h
    · cases h
    · next hempty =>
      split at h
      · cases h
      · next hlong =>
        exact ⟨by simpa using hzero, by simpa using hempty, by simpa [hpurpose] using hlong⟩

/-- A path leads to a directory with these entries at a place. -/
structure LeadsTo (w : Workspace) (p : Path) (place : Place) (entries : List (FileName × Tree)) :
    Prop where
  usable : p.IsUsable
  leads : ∃ left, Leads w.root maxLinks (w.start p) p.way left place
  here : w.root.at? place = some (.directory entries)

theorem exists_leadsTo (h : w.find p = .ok (.directory entries)) :
    ∃ place, w.LeadsTo p place entries := by
  unfold find at h
  split at h
  · cases h
  · next place hlocate =>
    have husable := isUsable_of_locate hlocate (by simp)
    rw [locate_of_isUsable husable] at hlocate
    obtain ⟨left, hleads⟩ := exists_leads hlocate
    -- A final slash adds a step that leads nowhere else.
    rw [steps_eq] at hleads
    have hway := hleads.of_append_stays (by split <;> simp)
    split at h
    · next t hat =>
      cases h
      exact ⟨place, husable, ⟨left, hway⟩, hat⟩
    · cases h

/-- A slash at the end of a path to a directory makes no difference. -/
theorem LeadsTo.leads_steps (h : w.LeadsTo p place entries) :
    ∃ left, Leads w.root maxLinks (w.start p) p.steps left place := by
  obtain ⟨left, hleads⟩ := h.leads
  have hdir := look_eq_directory_iff.mpr ⟨entries, h.here⟩
  rw [steps_eq]
  split
  · exact ⟨left, hleads.append (.stay hdir (.inr rfl) .done)⟩
  · exact ⟨left, hleads.append .done⟩

theorem LeadsTo.find_eq (h : w.LeadsTo p place entries) : w.find p = .ok (.directory entries) := by
  obtain ⟨left, hleads⟩ := h.leads_steps
  rw [find, locate_of_isUsable h.usable, hleads.follow_find]
  simp [h.here]

/-!
## Making directories

Making a directory that is there fails, and the program finds out by a lookup that this is no
failure. The lookup fails in turn if the path is too long.
-/

theorem locate_of_not_isUsable (h : ¬ p.IsUsable) (hne : p.bytes ≠ [])
    (hpurpose : purpose ≠ .spell) :
    ∃ fault, w.locate purpose p = .error fault ∧ fault ≠ .notFound := by
  unfold locate
  by_cases hzero : p.bytes.contains 0 = true
  · exact ⟨.zeroByte, by rw [if_pos hzero], by simp⟩
  · by_cases hlong : p.isTooLong = true
    · have hempty : p.bytes.isEmpty = false := by simpa using hne
      refine ⟨.nameTooLong, ?_, by simp⟩
      rw [if_neg hzero, hempty, if_neg (by simp), if_pos ⟨hlong, hpurpose⟩]
    · exact absurd ⟨by simpa using hzero, hne, by simpa using hlong⟩ h

/-- A file can be written under a name if the name is proper and not too long and if nothing but a
file has it. -/
structure Fits (name : FileName) (entries : List (FileName × Tree)) : Prop where
  proper : isProperName name = true
  short : name.length ≤ maxNameLength
  file : ∀ s, entryNamed? name entries = some s → s.isFile

theorem Fits.setEntry (h : Fits name entries) (content : Content) :
    Fits name (setEntry name (.file content) entries) where
  proper := h.proper
  short := h.short
  file s hs := by
    rw [entryNamed?_setEntry_self] at hs
    cases hs
    rfl

theorem start_child (hp : p.bytes ≠ []) (hname : isProperName name = true) :
    w.start (p.child name) = w.start p := by
  rw [start, start, child, isAbsolute_join hp (isAbsolute_of_isProperName hname)]

/-- An entry of a directory that is there is looked up in this directory. -/
theorem locate_child (h : w.LeadsTo p place entries) (hname : isProperName name = true)
    (husable : (p.child name).IsUsable) (hpurpose : purpose ≠ .spell) :
    ∃ left, w.locate purpose (p.child name) = follow w.root purpose left place [.entry name] := by
  obtain ⟨left, hleads⟩ := h.leads
  refine ⟨left, ?_⟩
  rw [locate_of_isUsable husable, start_child h.usable.nonempty hname,
    steps_child h.usable.nonempty hname, hleads.follow_append hpurpose (by simp) (by simp)]

/-- A file in a directory that is there is found if it is there. -/
theorem locate_find_child (h : w.LeadsTo p place entries) (hfits : Fits name entries)
    (husable : (p.child name).IsUsable) :
    w.locate .find (p.child name) =
      if (entryNamed? name entries).isSome then .ok (place ++ [name]) else .error .notFound := by
  obtain ⟨left, hlocate⟩ :=
    locate_child h hfits.proper husable (show Purpose.find ≠ .spell by simp)
  rw [hlocate, follow_entry (look_eq_directory_iff.mpr ⟨entries, h.here⟩), look_concat h.here]
  cases hs : entryNamed? name entries with
  | none => simp [Nat.not_lt.mpr hfits.short]
  | some s =>
      have hfile := hfits.file s hs
      cases s with
      | file => simp [Nat.not_lt.mpr hfits.short, shallow, follow]
      | link => cases hfile
      | directory => cases hfile

/-- A file that is put into a directory, in the place of a file or of nothing, is all that is
written. -/
theorem written_put (h : w.root.at? place = some (.directory entries))
    (hfile : ∀ s, entryNamed? name entries = some s → s.isFile) (content : Content) :
    Written w.root (w.put (place ++ [name]) (.file content)).root (place ++ [name]) where
  same q hq := by
    rw [put, look_put h hfile, if_neg hq]
  before t ht := by
    rw [look_concat h] at ht
    obtain ⟨s, hs, rfl⟩ := Option.map_eq_some_iff.mp ht
    rw [shallow_of_isFile (hfile s hs)]
    exact hfile s hs
  after := ⟨content, by rw [put, look_put h hfile, if_pos rfl]⟩

theorem LeadsTo.written (h : w.LeadsTo p place entries)
    (hfits : Fits name entries) (content : Content) :
    Written w.root (w.put (place ++ [name]) (.file content)).root (place ++ [name]) :=
  written_put h.here hfits.file content

/-- A directory that is led to is led to after a file was written in it. -/
theorem LeadsTo.put (h : w.LeadsTo p place entries)
    (hfits : Fits name entries) (content : Content) :
    (w.put (place ++ [name]) (.file content)).LeadsTo p place
      (setEntry name (.file content) entries) where
  usable := h.usable
  leads := by
    obtain ⟨left, hleads⟩ := h.leads
    have hfollow := hleads.follow_eq (h.written hfits content) .find
    rw [hleads.follow_find] at hfollow
    exact exists_leads hfollow
  here := at?_put_concat h.here name _

end Workspace

end ModuleReadme
