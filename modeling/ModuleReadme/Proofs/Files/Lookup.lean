import ModuleReadme.Files.Workspace
import ModuleReadme.Proofs.Files.Tree
import Mathlib.Data.List.Basic

/-!
# Lookups that find something

What a lookup does at a step depends on how the entry looks that the step names, and not on what is
below it (`follow_entry`). The steps of a lookup that finds something lead there (`Leads`) through
directories and links that are there, and whatever comes behind these steps is looked up from there
(`Leads.follow_append`).
-/

namespace ModuleReadme.Workspace

open ModuleReadme.Tree ModuleReadme.Path

/-!
## Steps that lead somewhere

The relation has a rule for each way in which a step is taken. It is what inductions on lookups that
find something go along, with five cases and none for a lookup that fails.
-/

/-- The steps lead from one place to another, where `left` of the links are left. -/
inductive Leads (root : Tree) : Nat → Place → List Step → Nat → Place → Prop
  | done {links place} : Leads root links place [] links place
  | stay {links place step rest left q} (hdir : root.look place = some (.directory []))
      (hstep : step = .here ∨ step = .slashAtEnd) (h : Leads root links place rest left q) :
      Leads root links place (step :: rest) left q
  | up {links place rest left q} (hdir : root.look place = some (.directory []))
      (h : Leads root links place.dropLast rest left q) :
      Leads root links place (.up :: rest) left q
  | enter {links place name rest left q t} (hdir : root.look place = some (.directory []))
      (hlength : name.length ≤ maxNameLength) (hlook : root.look (place ++ [name]) = some t)
      (ht : ∀ target, t ≠ .link target) (h : Leads root links (place ++ [name]) rest left q) :
      Leads root links place (.entry name :: rest) left q
  | link {links place name rest left q target} (hdir : root.look place = some (.directory []))
      (hlength : name.length ≤ maxNameLength)
      (hlook : root.look (place ++ [name]) = some (.link target))
      (h : Leads root links (if target.isAbsolute then [] else place) (target.steps ++ rest)
        left q) :
      Leads root (links + 1) place (.entry name :: rest) left q

variable {root : Tree} {purpose : Purpose} {links left : Nat} {place q : Place} {step : Step}
  {steps rest : List Step} {name : FileName} {target : Path}

/-!
## Single steps

What the lookup does at its first step, for all purposes at once. The premise is that there is a
directory, since from anything else a step leads nowhere.
-/

theorem follow_stay (h : root.look place = some (.directory []))
    (hstep : step = .here ∨ step = .slashAtEnd) :
    follow root purpose links place (step :: rest) = follow root purpose links place rest := by
  obtain ⟨entries, hat⟩ := look_eq_directory_iff.mp h
  rw [follow]
  rcases hstep with rfl | rfl <;> simp only [hat]

theorem follow_up (h : root.look place = some (.directory [])) :
    follow root purpose links place (.up :: rest) =
      follow root purpose links place.dropLast rest := by
  obtain ⟨entries, hat⟩ := look_eq_directory_iff.mp h
  rw [follow]
  simp only [hat]

/-- A step to an entry depends on what the entry looks like. -/
theorem follow_entry (h : root.look place = some (.directory [])) :
    follow root purpose links place (.entry name :: rest) =
      if purpose = .write ∧ rest = [.slashAtEnd] then .error .isADirectory
      else if maxNameLength < name.length
          ∨ purpose = .spell ∧ (spelled (place ++ [name])).isTooLong then .error .nameTooLong
      else
        match root.look (place ++ [name]) with
        | none =>
          if rest = [] ∧ (purpose = .write ∨ purpose = .create)
              ∨ rest = [.slashAtEnd] ∧ purpose = .create then .ok (place ++ [name])
          else .error .notFound
        | some (.link target) =>
          if rest = [] ∧ purpose = .create then .error .alreadyExists
          else if rest = [] ∧ purpose = .take then .ok (place ++ [name])
          else
            match links with
            | 0 => .error .tooManyLinks
            | links + 1 =>
              follow root purpose links (if target.isAbsolute then [] else place)
                (target.steps ++ rest)
        | some _ => follow root purpose links (place ++ [name]) rest := by
  obtain ⟨entries, hat⟩ := look_eq_directory_iff.mp h
  rw [follow, look_concat hat]
  simp only [hat]
  -- Nothing, a file, a link and a directory.
  rcases entryNamed? name entries with - | (- | - | -)
  · rfl
  · rfl
  · cases links <;> rfl
  · rfl

/-- An entry that is no link is entered. -/
theorem follow_enter {t : Tree} (h : root.look place = some (.directory []))
    (hlook : root.look (place ++ [name]) = some t) (ht : ∀ target, t ≠ .link target) :
    follow root purpose links place (.entry name :: rest) =
      if purpose = .write ∧ rest = [.slashAtEnd] then .error .isADirectory
      else if maxNameLength < name.length
          ∨ purpose = .spell ∧ (spelled (place ++ [name])).isTooLong then .error .nameTooLong
      else follow root purpose links (place ++ [name]) rest := by
  rw [follow_entry h, hlook]
  cases t with
  | file => rfl
  | link target => exact absurd rfl (ht target)
  | directory => rfl

/-!
## Lookups that find something

The relation is derived from a lookup that was made to find something. What the same steps do for
the other purposes then follows by going along the derivation.
-/

theorem append_ne_slashAtEnd (hne : rest ≠ []) (hslash : rest ≠ [.slashAtEnd]) :
    steps ++ rest ≠ [.slashAtEnd] := by
  cases steps with
  | nil => exact hslash
  | cons step steps => simp [hne]

/-- The steps of a lookup that finds something lead there. -/
theorem exists_leads (h : follow root .find links place steps = .ok q) :
    ∃ left, Leads root links place steps left q := by
  -- The cases that are not named are those in which the lookup fails.
  fun_induction follow root .find links place steps with
  | case1 => contradiction
  | case2 links place =>
      cases h
      exact ⟨links, .done⟩
  | case3 links place rest entries hat ih =>
      have hdir := look_eq_directory_iff.mpr ⟨entries, hat⟩
      obtain ⟨left, hrest⟩ := ih h
      exact ⟨left, .stay hdir (.inl rfl) hrest⟩
  | case4 links place rest entries hat ih =>
      have hdir := look_eq_directory_iff.mpr ⟨entries, hat⟩
      obtain ⟨left, hrest⟩ := ih h
      exact ⟨left, .stay hdir (.inr rfl) hrest⟩
  | case5 links place rest entries hat ih =>
      have hdir := look_eq_directory_iff.mpr ⟨entries, hat⟩
      obtain ⟨left, hrest⟩ := ih h
      exact ⟨left, .up hdir hrest⟩
  -- Only a write or a creation ends where nothing is, and only what is to be taken may be a link.
  | case8 links place rest entries hat name hwrite hlength hentry hmissing => simp at hmissing
  | case11 links place rest entries hat name hwrite hlength target hentry hcreate htake =>
      simp at htake
  | case13 place rest entries hat name hwrite hlength target hentry hcreate htake links ih =>
      have hdir := look_eq_directory_iff.mpr ⟨entries, hat⟩
      have hlook := look_concat hat name
      rw [hentry] at hlook
      obtain ⟨left, hrest⟩ := ih h
      exact ⟨left, .link hdir (by omega) hlook hrest⟩
  | case14 links place rest entries hat name hwrite hlength t ht hentry ih =>
      have hdir := look_eq_directory_iff.mpr ⟨entries, hat⟩
      have hlook := look_concat hat name
      rw [hentry] at hlook
      obtain ⟨left, hrest⟩ := ih h
      exact ⟨left, .enter hdir (by omega) hlook (shallow_ne_link ht) hrest⟩
  | _ => cases h

/-- Steps that lead to a place can be followed by steps from there. -/
theorem Leads.append {mid : Nat} {p : Place} (h : Leads root links place steps mid p)
    (hrest : Leads root mid p rest left q) : Leads root links place (steps ++ rest) left q := by
  induction h with
  | done => exact hrest
  | stay hdir hstep _ ih => exact .stay hdir hstep (ih hrest)
  | up hdir _ ih => exact .up hdir (ih hrest)
  | enter hdir hlength hlook ht _ ih => exact .enter hdir hlength hlook ht (ih hrest)
  | link hdir hlength hlook _ ih =>
      exact .link hdir hlength hlook (List.append_assoc _ _ _ ▸ ih hrest)

/-- Steps that lead somewhere are followed there, if nothing but this is asked. -/
theorem Leads.follow_find (h : Leads root links place steps left q) :
    follow root .find links place steps = .ok q := by
  induction h with
  | done => rw [follow, if_neg (by simp)]
  | stay hdir hstep _ ih => rw [follow_stay hdir hstep, ih]
  | up hdir _ ih => rw [follow_up hdir, ih]
  | enter hdir hlength hlook ht _ ih =>
      rw [follow_enter hdir hlook ht]
      simpa [Nat.not_lt.mpr hlength] using ih
  | link hdir hlength hlook _ ih =>
      rw [follow_entry hdir, hlook]
      simpa [Nat.not_lt.mpr hlength] using ih

/-- Behind a slash at the end there is a directory. -/
theorem Leads.look_eq_directory (h : Leads root links place steps left q)
    (hlast : steps.getLast? = some .slashAtEnd) : root.look q = some (.directory []) := by
  -- The last step stays the last one when the steps of a link come before the rest.
  induction h with
  | done => cases hlast
  | @stay links place step rest left q hdir _ h ih =>
      rcases rest with - | ⟨s, rest⟩
      · cases h
        exact hdir
      · exact ih (by simpa using hlast)
  | @up links place rest left q _ _ ih =>
      rcases rest with - | ⟨s, rest⟩
      · cases hlast
      · exact ih (by simpa using hlast)
  | @enter links place name rest left q t _ _ _ _ _ ih =>
      rcases rest with - | ⟨s, rest⟩
      · cases hlast
      · exact ih (by simpa using hlast)
  | @link links place name rest left q target _ _ _ _ ih =>
      rcases rest with - | ⟨s, rest⟩
      · cases hlast
      · have hrest : (s :: rest).getLast? = some .slashAtEnd := by simpa using hlast
        apply ih
        rw [List.getLast?_append, hrest, Option.some_or]

/-- What cannot be created is what is there already. -/
theorem Leads.follow_create (h : Leads root links place steps left q) :
    follow root .create links place steps = .error .alreadyExists := by
  induction h with
  | done => rw [follow, if_pos rfl]
  | stay hdir hstep _ ih => rw [follow_stay hdir hstep, ih]
  | up hdir _ ih => rw [follow_up hdir, ih]
  | @enter links place name rest left q t hdir hlength hlook ht _ ih =>
      rw [follow_enter hdir hlook ht]
      simpa [Nat.not_lt.mpr hlength] using ih
  | @link links place name rest left q target hdir hlength hlook _ ih =>
      rw [follow_entry hdir, hlook]
      by_cases hrest : rest = []
      · simp [Nat.not_lt.mpr hlength, hrest]
      · simpa [Nat.not_lt.mpr hlength, hrest] using ih

/-- What comes behind steps that lead somewhere is looked up from there. -/
theorem Leads.follow_append (h : Leads root links place steps left q) (hpurpose : purpose ≠ .spell)
    (hne : rest ≠ []) (hslash : rest ≠ [.slashAtEnd]) :
    follow root purpose links place (steps ++ rest) = follow root purpose left q rest := by
  -- The purposes differ at the last step only, and no step of the first ones is the last.
  induction h with
  | done => rfl
  | stay hdir hstep _ ih => rw [List.cons_append, follow_stay hdir hstep, ih]
  | up hdir _ ih => rw [List.cons_append, follow_up hdir, ih]
  | @enter links place name more left q t hdir hlength hlook ht _ ih =>
      have hmore : more ++ rest ≠ [.slashAtEnd] := append_ne_slashAtEnd hne hslash
      rw [List.cons_append, follow_enter hdir hlook ht]
      simpa [Nat.not_lt.mpr hlength, hmore, hpurpose] using ih
  | @link links place name more left q target hdir hlength hlook _ ih =>
      have hmore : more ++ rest ≠ [.slashAtEnd] := append_ne_slashAtEnd hne hslash
      rw [List.append_assoc] at ih
      rw [List.cons_append, follow_entry hdir, hlook]
      simpa [Nat.not_lt.mpr hlength, hmore, hne, hpurpose] using ih

/-- From a file there is no way on. -/
theorem Leads.eq_of_file (h : Leads root links place steps left q) {content : Content}
    (hfile : root.look place = some (.file content)) : steps = [] ∧ q = place := by
  cases h with
  | done => exact ⟨rfl, rfl⟩
  | stay hdir | up hdir | enter hdir | link hdir =>
      rw [hfile] at hdir
      cases hdir

/-!
## Steps that lead nowhere else

Dots and a slash at the end stay where they are. They can be left out behind steps that lead
somewhere, though not be added, since they ask for a directory.
-/

/-- On the way of some steps and others there is the place where the first ones lead. -/
theorem Leads.split (h : Leads root links place (steps ++ rest) left q) :
    ∃ mid p, Leads root links place steps mid p ∧ Leads root mid p rest left q := by
  generalize hall : steps ++ rest = all at h
  -- Where the first steps are none, the derivation as a whole is the second part.
  have hnil : ∀ {links place all left q}, [] ++ rest = all → Leads root links place all left q →
      ∃ mid p, Leads root links place [] mid p ∧ Leads root mid p rest left q := by
    rintro links place all left q rfl h
    exact ⟨_, _, .done, h⟩
  induction h generalizing steps with
  | done =>
      obtain ⟨rfl, rfl⟩ := List.append_eq_nil_iff.mp hall
      exact ⟨_, _, .done, .done⟩
  | stay hdir hstep h ih =>
      rcases steps with - | ⟨step, steps⟩
      · exact hnil hall (.stay hdir hstep h)
      · obtain ⟨rfl, rfl⟩ := List.cons_eq_cons.mp hall
        obtain ⟨mid, p, hsteps, hrest⟩ := ih rfl
        exact ⟨mid, p, .stay hdir hstep hsteps, hrest⟩
  | up hdir h ih =>
      rcases steps with - | ⟨step, steps⟩
      · exact hnil hall (.up hdir h)
      · obtain ⟨rfl, rfl⟩ := List.cons_eq_cons.mp hall
        obtain ⟨mid, p, hsteps, hrest⟩ := ih rfl
        exact ⟨mid, p, .up hdir hsteps, hrest⟩
  | enter hdir hlength hlook ht h ih =>
      rcases steps with - | ⟨step, steps⟩
      · exact hnil hall (.enter hdir hlength hlook ht h)
      · obtain ⟨rfl, rfl⟩ := List.cons_eq_cons.mp hall
        obtain ⟨mid, p, hsteps, hrest⟩ := ih rfl
        exact ⟨mid, p, .enter hdir hlength hlook ht hsteps, hrest⟩
  | link hdir hlength hlook h ih =>
      rcases steps with - | ⟨step, steps⟩
      · exact hnil hall (.link hdir hlength hlook h)
      · obtain ⟨rfl, rfl⟩ := List.cons_eq_cons.mp hall
        obtain ⟨mid, p, hsteps, hrest⟩ := ih (List.append_assoc _ _ _)
        exact ⟨mid, p, .link hdir hlength hlook hsteps, hrest⟩

theorem Leads.eq_of_stays (h : Leads root links place steps left q)
    (hsteps : ∀ step ∈ steps, step = .here ∨ step = .slashAtEnd) : left = links ∧ q = place := by
  induction h with
  | done => exact ⟨rfl, rfl⟩
  | stay _ _ _ ih => exact ih fun step hstep => hsteps step (List.mem_cons_of_mem _ hstep)
  | up => simpa using hsteps .up List.mem_cons_self
  | @enter links place name => simpa using hsteps (.entry name) List.mem_cons_self
  | @link links place name => simpa using hsteps (.entry name) List.mem_cons_self

/-- Steps at the end that lead nowhere else can be left out. -/
theorem Leads.of_append_stays (h : Leads root links place (steps ++ rest) left q)
    (hrest : ∀ step ∈ rest, step = .here ∨ step = .slashAtEnd) :
    Leads root links place steps left q := by
  obtain ⟨mid, p, hsteps, hstays⟩ := h.split
  obtain ⟨rfl, rfl⟩ := hstays.eq_of_stays hrest
  exact hsteps

/-!
## Names on the way

Without dots and links a lookup ends where the names say. It may still fail, at a name that is too
long to be looked up.
-/

end ModuleReadme.Workspace
