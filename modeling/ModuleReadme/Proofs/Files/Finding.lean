import ModuleReadme.Proofs.Files.Reading
import ModuleReadme.Proofs.Files.Visible

/-!
# Files that a lookup finds

What there is and what is found are two things. A directory has a file under a name if the entry of
this name is the file or a link that leads to it, be it over other links (`HasFile`). A lookup by a
path finds the file unless the path is too long or too many links are on the way: this is all that
stands between the two (`find_child_eq_file_iff`). A file below a directory, to which directories
lead and no links, is read as it is in the tree (`readText_below`).
-/

namespace ModuleReadme

namespace Workspace

open ModuleReadme.Tree ModuleReadme.Path

variable {w : Workspace} {root : Tree} {p : Path} {links left : Nat} {place q : Place}
  {steps : List Step} {name : FileName} {content : Content} {entries : List (FileName × Tree)}

/-! ## Counting links

`Leads` counts down the links that may still be followed. With none left at the end, the number at
the beginning is that of the links on the way.
-/

theorem Leads.add (h : Leads root links place steps left q) (more : Nat) :
    Leads root (links + more) place steps (left + more) q := by
  induction h with
  | done => exact .done
  | stay hdir hstep _ ih => exact .stay hdir hstep ih
  | up hdir _ ih => exact .up hdir ih
  | enter hdir hlength hlook ht _ ih => exact .enter hdir hlength hlook ht ih
  | link hdir hlength hlook _ ih =>
      rw [Nat.add_right_comm]
      exact .link hdir hlength hlook ih

theorem Leads.exists_exact (h : Leads root links place steps left q) :
    ∃ n, links = n + left ∧ Leads root n place steps 0 q := by
  induction h with
  | done => exact ⟨0, (Nat.zero_add _).symm, .done⟩
  | stay hdir hstep _ ih =>
      obtain ⟨n, rfl, h⟩ := ih
      exact ⟨n, rfl, .stay hdir hstep h⟩
  | up hdir _ ih =>
      obtain ⟨n, rfl, h⟩ := ih
      exact ⟨n, rfl, .up hdir h⟩
  | enter hdir hlength hlook ht _ ih =>
      obtain ⟨n, rfl, h⟩ := ih
      exact ⟨n, rfl, .enter hdir hlength hlook ht h⟩
  | link hdir hlength hlook _ ih =>
      obtain ⟨n, rfl, h⟩ := ih
      exact ⟨n + 1, Nat.add_right_comm n _ 1, .link hdir hlength hlook h⟩

/-- Steps lead to one place only. -/
theorem Leads.unique {left' : Nat} {q' : Place} (h : Leads root links place steps left q)
    (h' : Leads root links place steps left' q') : q = q' := by
  have hfollow := h.follow_find
  rw [h'.follow_find] at hfollow
  exact (Except.ok.inj hfollow).symm

/-!
## Files in a directory

A directory has a file whether or not a lookup gets there. `HasFile` says so in terms of entries
and links, and `Finds` adds the limits of a lookup: the length of the path, that of the name, and
the number of links.
-/

/-- The directory at a place has a file under a name, so many symbolic links away. -/
inductive HasFile (w : Workspace) (place : Place) (entries : List (FileName × Tree))
    (name : FileName) : Nat → Content → Prop
  | entry {c : Content} (hs : entryNamed? name entries = some (.file c)) :
      HasFile w place entries name 0 c
  | link {target : Path} {n : Nat} {r : Place} {c : Content}
      (hs : entryNamed? name entries = some (.link target))
      (hleads : Leads w.root n (if target.isAbsolute then [] else place) target.steps 0 r)
      (hfile : w.root.at? r = some (.file c)) : HasFile w place entries name (n + 1) c

/-- The file that a directory has under a name is within the limits of a lookup by the path `p` of
the directory and the name. -/
structure Finds (w : Workspace) (p : Path) (place : Place) (entries : List (FileName × Tree))
    (name : FileName) (content : Content) : Prop where
  usable : (p.child name).IsUsable
  short : name.length ≤ maxNameLength
  /-- The links on the way to the directory and those behind the name count together. -/
  reached : ∃ before behind, Leads w.root before (w.start p) p.way 0 place ∧
    w.HasFile place entries name behind content ∧ before + behind ≤ maxLinks

/-- One step into a directory leads to a file if the directory has the file under this name. -/
theorem leads_entry_iff (hat : w.root.at? place = some (.directory entries)) :
    (∃ q, Leads w.root links place [.entry name] 0 q ∧ w.root.at? q = some (.file content)) ↔
      name.length ≤ maxNameLength ∧ w.HasFile place entries name links content := by
  have hdir := look_eq_directory_iff.mpr ⟨entries, hat⟩
  have hlook := look_concat hat name
  constructor
  · rintro ⟨q, hleads, hfile⟩
    -- A step to an entry is a step into it or over a link.
    cases hleads with
    | stay _ hstep => simp at hstep
    | enter _ hlength _ _ hrest =>
        cases hrest
        rw [at?_concat hat] at hfile
        exact ⟨hlength, .entry hfile⟩
    | @link _ _ _ _ _ _ target _ hlength hlink hrest =>
        rw [hlook, Option.map_eq_some_iff] at hlink
        obtain ⟨s, hs, hshallow⟩ := hlink
        cases s with
        | file => cases hshallow
        | directory => cases hshallow
        | link =>
            cases hshallow
            rw [List.append_nil] at hrest
            exact ⟨hlength, .link hs hrest hfile⟩
  · rintro ⟨hlength, hhas⟩
    cases hhas with
    | entry hs =>
        rw [hs] at hlook
        exact ⟨_, .enter hdir hlength hlook (by simp [shallow]) .done, by rw [at?_concat hat, hs]⟩
    | link hs hleads hfile =>
        rw [hs] at hlook
        exact ⟨_, .link hdir hlength hlook (by rwa [List.append_nil]), hfile⟩

/-- A lookup of an entry comes to a file if and only if the directory has the file, within the
limits of a lookup. -/
theorem find_child_eq_file_iff (h : w.LeadsTo p place entries) (hname : isProperName name = true) :
    w.find (p.child name) = .ok (.file content) ↔ w.Finds p place entries name content := by
  have hsteps : (p.child name).steps = p.way ++ [.entry name] := steps_child h.usable.nonempty hname
  have hstart : w.start (p.child name) = w.start p := start_child h.usable.nonempty hname
  rw [find_eq_file_iff]
  simp only [look_eq_file_iff]
  constructor
  · rintro ⟨q, hlocate, hfile⟩
    have husable := isUsable_of_locate hlocate (by simp)
    rw [locate_of_isUsable husable, hsteps, hstart] at hlocate
    obtain ⟨left, hleads⟩ := exists_leads hlocate
    -- The links are counted on the way to the directory and on the last step.
    obtain ⟨mid, r, hway, hentry⟩ := hleads.split
    obtain ⟨_, hplace⟩ := h.leads
    obtain rfl := hway.unique hplace
    obtain ⟨before, hbefore, hbeforeWay⟩ := hway.exists_exact
    obtain ⟨behind, hbehind, hlast⟩ := hentry.exists_exact
    obtain ⟨hshort, hhas⟩ := (leads_entry_iff h.here).mp ⟨q, hlast, hfile⟩
    exact ⟨husable, hshort, before, behind, hbeforeWay, hhas, by omega⟩
  · rintro ⟨husable, hshort, before, behind, hway, hhas, hlinks⟩
    obtain ⟨q, hentry, hfile⟩ := (leads_entry_iff h.here).mpr ⟨hshort, hhas⟩
    refine ⟨q, ?_, hfile⟩
    -- What the way leaves of the allowed links is enough for the last step.
    obtain ⟨spare, hspare⟩ := Nat.exists_eq_add_of_le hlinks
    have hway := hway.add (behind + spare)
    have hentry := hentry.add spare
    rw [Nat.zero_add] at hway hentry
    rw [locate_of_isUsable husable, hsteps, hstart, hspare, Nat.add_assoc,
      (hway.append hentry).follow_find]

theorem isFile_child_iff (h : w.LeadsTo p place entries) (hname : isProperName name = true) :
    w.isFile (p.child name) = true ↔ ∃ content, w.Finds p place entries name content := by
  simp only [isFile_iff, ← find_child_eq_file_iff h hname, find_eq_file_iff]
  exact exists_comm

/-- A file that is found is read as what it holds. -/
theorem Finds.readText_eq (hfinds : w.Finds p place entries name content)
    (h : w.LeadsTo p place entries) (hname : isProperName name = true) :
    w.readText (p.child name) = content.text := by
  rw [readText, (find_child_eq_file_iff h hname).mpr hfinds]

theorem readText_child_eq_ok_iff {text : String} (h : w.LeadsTo p place entries)
    (hname : isProperName name = true) :
    w.readText (p.child name) = .ok text ↔
      ∃ content, w.Finds p place entries name content ∧ content.text = .ok text := by
  rw [readText_eq_ok_iff]
  simp only [← find_child_eq_file_iff h hname, find_eq_file_iff]
  constructor
  · rintro ⟨q, content, hlocate, hlook, htext⟩
    exact ⟨content, ⟨q, hlocate, hlook⟩, htext⟩
  · rintro ⟨content, ⟨q, hlocate, hlook⟩, htext⟩
    exact ⟨q, content, hlocate, hlook, htext⟩

/-!
## Files below a directory

Where only directories are on the way, no link is followed, and so none is counted.
-/

theorem leads_names {names : List FileName} {t : Tree}
    (hat : root.at? (place ++ names) = some t) (ht : ∀ target, t ≠ .link target)
    (hshort : ∀ n ∈ names, n.length ≤ maxNameLength) :
    Leads root links place (names.map .entry) links (place ++ names) := by
  induction names generalizing place with
  | nil =>
      rw [List.append_nil]
      exact .done
  | cons n names ih =>
      obtain ⟨entries, r, hdir, hr, hnames⟩ := exists_of_at?_append_cons hat
      -- Below a link there is nothing, so that none is met.
      have hlink : ∀ target, r ≠ .link target := by
        rintro target rfl
        cases names with
        | nil => exact ht target (Option.some.inj hnames).symm
        | cons => cases hnames
      obtain ⟨hn, hshort⟩ := List.forall_mem_cons.mp hshort
      have hlook : root.look (place ++ [n]) = some r.shallow := by rw [look, hr, Option.map_some]
      have hrest : Leads root links (place ++ [n]) (names.map .entry) links (place ++ [n] ++ names) :=
        ih (by rwa [List.append_assoc]) hshort
      rw [List.append_assoc] at hrest
      exact .enter (look_eq_directory_iff.mpr ⟨entries, hdir⟩) hn hlook (shallow_ne_link hlink) hrest

/-- The path of a place below a directory begins where that of the directory does. -/
theorem steps_below {names : List FileName} (hp : p.bytes ≠ [])
    (hnames : ∀ n ∈ names, isProperName n = true) (hne : names ≠ []) :
    (p.below names).steps = p.way ++ names.map .entry ∧
      (p.below names).isAbsolute = p.isAbsolute := by
  induction names generalizing p with
  | nil => exact absurd rfl hne
  | cons n names ih =>
      obtain ⟨hn, hnames⟩ := List.forall_mem_cons.mp hnames
      have habsolute : (p.child n).isAbsolute = p.isAbsolute :=
        isAbsolute_join hp (isAbsolute_of_isProperName hn)
      -- The last name is a step of its own, as it has no slash behind it.
      rcases names with - | ⟨m, names⟩
      · exact ⟨steps_child hp hn, habsolute⟩
      · obtain ⟨hsteps, hbelow⟩ := ih (bytes_child_ne_nil hn) hnames (List.cons_ne_nil m names)
        refine ⟨?_, hbelow.trans habsolute⟩
        show ((p.child n).below (m :: names)).steps = _
        rw [hsteps, way_child hp hn]
        simp

/-- A file below a directory is read as what it holds, if its path can be looked up. -/
theorem readText_below {names : List FileName} (h : w.LeadsTo p place entries)
    (hproper : w.root.isProper = true)
    (hat : (directory entries).at? names = some (.file content))
    (hshort : ∀ n ∈ names, n.length ≤ maxNameLength) (husable : (p.below names).IsUsable) :
    w.readText (p.below names) = content.text := by
  have hne : names ≠ [] := by
    rintro rfl
    cases hat
  have hproperNames := isProperName_of_at? (isProper_at? hproper h.here) hat
  have hplace : w.root.at? (place ++ names) = some (.file content) := by
    rw [at?_append, h.here]
    exact hat
  obtain ⟨hsteps, habsolute⟩ := steps_below h.usable.nonempty hproperNames hne
  have hstart : w.start (p.below names) = w.start p := by rw [start, start, habsolute]
  -- The way to the directory may go over links, the names below it do not.
  obtain ⟨left, hway⟩ := h.leads
  have hnames : Leads w.root left place (names.map .entry) left (place ++ names) :=
    leads_names hplace (by simp) hshort
  have hleads := hway.append hnames
  have hfind : w.find (p.below names) = .ok (.file content) := by
    rw [find_eq_file_iff]
    refine ⟨place ++ names, ?_, look_eq_file_iff.mpr hplace⟩
    rw [locate_of_isUsable husable, hsteps, hstart, hleads.follow_find]
  rw [readText, hfind]

theorem readText_of_not_isUsable (h : ¬ p.IsUsable) (hne : p.bytes ≠ []) :
    ∃ fault, w.readText p = .error fault := by
  obtain ⟨fault, hlocate, -⟩ :=
    locate_of_not_isUsable (w := w) h hne (show Purpose.find ≠ .spell by simp)
  exact ⟨fault, by rw [readText, find, hlocate]⟩

/-!
## Entries of the current directory

The simplest paths are single names. The lookup of one, whatever it is made for, ends at the entry
of the current directory.
-/

/-- The name of an entry of the current directory, within the limits of a lookup. -/
structure IsEntry (w : Workspace) (name : FileName) (t : Tree) : Prop where
  entry : ∃ others, w.root.at? w.current = some (.directory others) ∧
    entryNamed? name others = some t
  unlinked : ∀ target, t ≠ .link target
  proper : isProperName name = true
  short : name.length ≤ maxNameLength
  usable : (Path.mk name).IsUsable
  spelled : (spelled (w.current ++ [name])).isTooLong = false

variable {t : Tree} {purpose : Purpose}

theorem IsEntry.locate_eq (h : w.IsEntry name t) (hcreate : purpose ≠ .create) :
    w.locate purpose ⟨name⟩ = .ok (w.current ++ [name]) := by
  obtain ⟨others, hcurrent, hentry⟩ := h.entry
  have hdir := look_eq_directory_iff.mpr ⟨others, hcurrent⟩
  have hlook := look_concat hcurrent name
  rw [hentry] at hlook
  rw [locate_of_isUsable h.usable, steps_of_isProperName h.proper, start,
    isAbsolute_of_isProperName h.proper, if_neg (by simp),
    follow_enter hdir hlook (shallow_ne_link h.unlinked)]
  simp [Nat.not_lt.mpr h.short, h.spelled, follow, hcreate]

theorem IsEntry.find_eq (h : w.IsEntry name t) : w.find ⟨name⟩ = .ok t := by
  obtain ⟨others, hcurrent, hentry⟩ := h.entry
  rw [find, h.locate_eq (by simp)]
  simp [at?_concat hcurrent, hentry]

theorem IsEntry.leads (h : w.IsEntry name (.directory entries)) :
    Leads w.root links (w.start ⟨name⟩) (Path.mk name).way links (w.current ++ [name]) := by
  obtain ⟨others, hcurrent, hentry⟩ := h.entry
  have hlook := look_concat hcurrent name
  rw [hentry] at hlook
  rw [way_of_isProperName h.proper, start, isAbsolute_of_isProperName h.proper]
  exact .enter (look_eq_directory_iff.mpr ⟨others, hcurrent⟩) h.short hlook (by simp [shallow]) .done

end Workspace

/-! ## Steps that stay

Components that stay where they are make a path longer and lead nowhere else. What is looked up
behind such a path is found or not by its length alone.
-/

open ModuleReadme.Tree ModuleReadme.Path Workspace

variable {w : Workspace} {p : Path} {name : FileName}

/-- A path behind `n` components that stay where they are. -/
def dotted (n : Nat) (p : Path) : Path := ⟨(List.replicate n [dot, slash]).flatten ++ p.bytes⟩

theorem length_dotted (n : Nat) (p : Path) :
    (dotted n p).bytes.length = n * 2 + p.bytes.length := by
  simp [dotted]

theorem contains_dotted (n : Nat) (p : Path) :
    (dotted n p).bytes.contains 0 = p.bytes.contains 0 := by
  induction n with
  | zero => rfl
  | succ n ih =>
      have hbytes : (dotted (n + 1) p).bytes = dot :: slash :: (dotted n p).bytes := rfl
      rw [hbytes, List.contains_cons, List.contains_cons, ih]
      rfl

theorem steps_dotted (n : Nat) (hp : p.bytes ≠ []) :
    (dotted n p).steps = List.replicate n .here ++ p.steps := by
  induction n with
  | zero => rfl
  | succ n ih =>
      have hbytes : (dotted (n + 1) p).bytes = [dot] ++ slash :: (dotted n p).bytes := rfl
      have hne : (dotted n p).bytes ≠ [] := by simp [dotted, hp]
      have hslash : (dotted (n + 1) p).endsInSlash = (dotted n p).endsInSlash := by
        rw [endsInSlash, endsInSlash, hbytes, List.getLast?_append, List.getLast?_cons,
          List.getLast?_eq_some_getLast hne]
        rfl
      rw [steps_eq, way, hbytes, List.splitOn_append_cons_self, List.filterMap_append, hslash,
        List.replicate_succ, List.cons_append, ← ih, steps_eq (dotted n p), way]
      rfl

theorem follow_replicate_here {root : Tree} {purpose : Purpose} {links : Nat} {place : Place}
    (hdir : root.look place = some (.directory [])) (n : Nat) (steps : List Step) :
    follow root purpose links place (List.replicate n .here ++ steps) =
      follow root purpose links place steps := by
  induction n with
  | zero => rfl
  | succ n ih => rw [List.replicate_succ, List.cons_append, follow_stay hdir (.inl rfl), ih]

/-- As long as the path is not too long, it leads where it did. -/
theorem locate_dotted {n : Nat} (hp : p.bytes ≠ []) (hrelative : p.isAbsolute = false)
    (hcurrent : w.root.look w.current = some (.directory []))
    (hlength : n * 2 + p.bytes.length ≤ maxLength) (purpose : Purpose) :
    w.locate purpose (dotted n p) = w.locate purpose p := by
  have hshort : ∀ q : Path, q.bytes.length ≤ maxLength → q.isTooLong = false :=
    fun q hq => decide_eq_false (Nat.not_lt.mpr hq)
  have hempty : (dotted n p).bytes.isEmpty = p.bytes.isEmpty := by
    rw [List.isEmpty_eq_false_iff.mpr hp, List.isEmpty_eq_false_iff]
    simp [dotted, hp]
  have habsolute : (dotted n p).isAbsolute = false := by
    cases n with
    | zero => exact hrelative
    | succ n => rfl
  -- All tests but the one for the length say the same, and the extra steps stay where they are.
  rw [locate, locate, contains_dotted, hempty, habsolute, hrelative, steps_dotted n hp,
    hshort _ (by rw [length_dotted]; exact hlength), hshort p (by omega)]
  simp only [Bool.false_eq_true, if_false, follow_replicate_here hcurrent]

/-- The path of an entry has the bytes of its name and those of the directory. -/
theorem length_le_length_child (hname : isProperName name = true) :
    p.bytes.length + name.length ≤ (p.child name).bytes.length := by
  rw [child, join, isAbsolute_of_isProperName hname, Bool.false_or]
  split
  · next hempty => simp [List.isEmpty_iff.mp hempty]
  · split <;> simp

end ModuleReadme
