import ModuleReadme.Files.Tree

/-!
# Trees after a file was written

Writing a file into a directory changes what is at one place of the tree and nothing else, as far as
one looks at places one by one and not at what is below them (`look_put`). Trees as they are in a
file system are proper: a directory names each of its entries once, by a name that a path can hold.
-/

namespace ModuleReadme

namespace Tree

variable {t s new : Tree} {place : Place} {name : FileName} {entries : List (FileName × Tree)}

/-!
## Places

A place is a list of names from the root. The inductions of this module are on this list, and at
each name there are three cases, of which only a directory leads on.
-/

theorem at?_append (t : Tree) (p q : Place) : t.at? (p ++ q) = (t.at? p).bind (·.at? q) := by
  induction p generalizing t with
  | nil => rfl
  | cons name p ih =>
      cases t with
      | file => rfl
      | link => rfl
      | directory entries =>
          show (entryNamed? name entries).bind _ = ((entryNamed? name entries).bind _).bind _
          cases entryNamed? name entries with
          | none => rfl
          | some s => exact ih s

theorem at?_concat (h : t.at? place = some (directory entries)) (name : FileName) :
    t.at? (place ++ [name]) = entryNamed? name entries := by
  rw [at?_append, h]
  show (entryNamed? name entries).bind some = _
  simp

/-- On the way to a place there are directories. -/
theorem exists_of_at?_append_cons {names : Place} (h : t.at? (place ++ name :: names) = some s) :
    ∃ entries r, t.at? place = some (directory entries) ∧ t.at? (place ++ [name]) = some r ∧
      r.at? names = some s := by
  rw [at?_append] at h
  obtain ⟨d, hd, hat⟩ := Option.bind_eq_some_iff.mp h
  cases d with
  | file => cases hat
  | link => cases hat
  | directory entries =>
      obtain ⟨r, hr, hat⟩ := Option.bind_eq_some_iff.mp hat
      exact ⟨entries, r, hd, by rw [at?_concat hd, hr], hat⟩

/-!
## Writing at a place

Writing goes down to a place and puts the directories on the way together again.
-/

/-- A directory with an entry put into it. -/
theorem at?_put_concat (h : t.at? place = some (directory entries)) (name : FileName) (new : Tree) :
    (t.put (place ++ [name]) new).at? place = some (directory (setEntry name new entries)) := by
  induction place generalizing t with
  | nil =>
      cases Option.some.inj h
      show some (directory (setEntry name _ entries)) = _
      cases (entryNamed? name entries).getD (directory []) <;> rfl
  | cons n place ih =>
      cases t with
      | file => cases h
      | link => cases h
      | directory others =>
          obtain ⟨s, hs, hat⟩ := Option.bind_eq_some_iff.mp h
          rw [List.cons_append, put, hs, Option.getD_some, at?, entryNamed?_setEntry_self]
          exact ih hat

/-!
## Looking at places

A directory above the place that was written is not the same tree as before, since what is below it
has changed. What one sees at it is the same if one looks at the directory alone.
-/

/-- A tree without what is below it. -/
def shallow : Tree → Tree
  | file content => file content
  | link target => link target
  | directory _ => directory []

/-- What is at a place, without what is below it. -/
def look (t : Tree) (place : Place) : Option Tree := (t.at? place).map shallow

theorem shallow_ne_link (h : ∀ target, t ≠ .link target) : ∀ target, t.shallow ≠ .link target := by
  cases t with
  | file => simp [shallow]
  | link target => exact absurd rfl (h target)
  | directory => simp [shallow]

theorem look_eq_directory_iff :
    t.look place = some (directory []) ↔ ∃ entries, t.at? place = some (directory entries) := by
  unfold look
  rcases t.at? place with - | (- | - | entries) <;> simp [shallow]

theorem look_eq_file_iff {content : Content} :
    t.look place = some (file content) ↔ t.at? place = some (file content) := by
  unfold look
  rcases t.at? place with - | (- | - | entries) <;> simp [shallow]

theorem look_concat (h : t.at? place = some (directory entries)) (name : FileName) :
    t.look (place ++ [name]) = (entryNamed? name entries).map shallow := by
  rw [look, at?_concat h]

/-- Nothing is below a tree that is as shallow as it looks. -/
theorem at?_cons_of_shallow (h : t.shallow = t) (name : FileName) (place : Place) :
    t.at? (name :: place) = none := by
  cases t with
  | file => rfl
  | link => rfl
  | directory entries =>
      rw [shallow, directory.injEq] at h
      subst h
      rfl

theorem shallow_of_isFile (h : t.isFile = true) : t.shallow = t := by
  cases t with
  | file => rfl
  | link => cases h
  | directory => cases h

/-- Where something without anything below it is put into a directory, in the place of something
else like that or of nothing, everything else looks the same as before. -/
theorem look_put_shallow (h : t.at? place = some (directory entries))
    (hname : ∀ s, entryNamed? name entries = some s → s.shallow = s) (hnew : new.shallow = new)
    (q : Place) :
    (t.put (place ++ [name]) new).look q = if q = place ++ [name] then some new else t.look q := by
  induction place generalizing t q with
  | nil =>
      cases Option.some.inj h
      have hput : (directory entries).put ([] ++ [name]) new =
          directory (setEntry name new entries) := by
        show directory (setEntry name _ entries) = _
        cases (entryNamed? name entries).getD (directory []) <;> rfl
      rw [hput]
      rcases q with - | ⟨n, q⟩
      · rfl
      · -- The other place begins with the name that is written, or with another one.
        by_cases hn : n = name
        · subst hn
          rw [look, look, at?, at?, entryNamed?_setEntry_self]
          rcases q with - | ⟨m, q⟩
          · simp [at?, hnew]
          · -- Below the new entry there is nothing, and there was nothing before.
            have hbelow : (entryNamed? n entries).bind (·.at? (m :: q)) = none := by
              cases hs : entryNamed? n entries with
              | none => rfl
              | some s => exact at?_cons_of_shallow (hname s hs) m q
            rw [hbelow, Option.bind_some, at?_cons_of_shallow hnew]
            simp
        · rw [look, look, at?, at?, entryNamed?_setEntry_of_ne hn]
          simp [hn]
  | cons n place ih =>
      cases t with
      | file => cases h
      | link => cases h
      | directory others =>
          -- One step down on the way to the directory.
          obtain ⟨s, hs, hat⟩ := Option.bind_eq_some_iff.mp h
          rw [List.cons_append, put, hs, Option.getD_some]
          rcases q with - | ⟨m, q⟩
          · rfl
          · by_cases hm : m = n
            · subst hm
              have hq := ih hat q
              rw [look, look] at hq
              rw [look, look, at?, at?, entryNamed?_setEntry_self, hs]
              simpa using hq
            · rw [look, look, at?, at?, entryNamed?_setEntry_of_ne hm]
              simp [hm]

/-- Where a file is written into a directory, in the place of a file or of nothing, everything
else looks the same as before. -/
theorem look_put (h : t.at? place = some (directory entries))
    (hname : ∀ s, entryNamed? name entries = some s → s.isFile) (content : Content) (q : Place) :
    (t.put (place ++ [name]) (file content)).look q =
      if q = place ++ [name] then some (file content) else t.look q :=
  look_put_shallow h (fun s hs => shallow_of_isFile (hname s hs)) rfl q

/-- Above something that is there, there is a directory. -/
theorem look_of_look_concat (h : t.look (place ++ [name]) = some s) :
    t.look place = some (directory []) := by
  obtain ⟨r, hat, -⟩ := Option.map_eq_some_iff.mp h
  obtain ⟨entries, -, hdir, -, -⟩ := exists_of_at?_append_cons hat
  exact look_eq_directory_iff.mpr ⟨entries, hdir⟩

/-- Above a directory there is a directory. -/
theorem look_dropLast (h : t.look place = some (directory [])) :
    t.look place.dropLast = some (directory []) := by
  rcases List.eq_nil_or_concat place with rfl | ⟨place, name, rfl⟩
  · exact h
  · rw [List.concat_eq_append] at h
    rw [List.concat_eq_append, List.dropLast_concat]
    exact look_of_look_concat h

/-- A tree in which there is a directory is a directory. -/
theorem look_nil (h : t.look place = some (directory [])) : t.look [] = some (directory []) := by
  cases t with
  | file => cases place <;> cases h
  | link => cases place <;> cases h
  | directory => rfl

/-!
## Proper trees

A model of a tree by lists can name an entry twice, or by a name with a slash, which no file system
does. What is read off names needs a tree that is proper.
-/

/-- Names that a path can hold as one of its steps. -/
def isProperName (name : FileName) : Bool :=
  !name.isEmpty && !name.contains Path.slash && name != [Path.dot] && name != [Path.dot, Path.dot]

mutual

/-- Every directory names each of its entries once, by a proper name. -/
def isProper : Tree → Bool
  | .file _ => true
  | .link _ => true
  | .directory entries => decide (entries.map (·.1)).Nodup && areProper entries

/-- All entries have proper names and are proper trees. -/
def areProper : List (FileName × Tree) → Bool
  | [] => true
  | (name, t) :: rest => isProperName name && t.isProper && areProper rest

end

theorem isProperName_iff : isProperName name = true ↔
    name ≠ [] ∧ Path.slash ∉ name ∧ name ≠ [Path.dot] ∧ name ≠ [Path.dot, Path.dot] := by
  simp [isProperName, and_assoc]

theorem areProper_iff : areProper entries = true ↔
    ∀ name t, (name, t) ∈ entries → isProperName name = true ∧ t.isProper = true := by
  induction entries with
  | nil => simp [areProper]
  | cons e entries ih =>
      obtain ⟨n, r⟩ := e
      simp only [areProper, Bool.and_eq_true, ih, List.mem_cons, Prod.mk.injEq]
      constructor
      · rintro ⟨hr, hrest⟩ name t (⟨rfl, rfl⟩ | hmem)
        · exact hr
        · exact hrest name t hmem
      · intro h
        exact ⟨h n r (.inl ⟨rfl, rfl⟩), fun name t hmem => h name t (.inr hmem)⟩

theorem nodup_of_isProper (h : (directory entries).isProper = true) :
    (entries.map (·.1)).Nodup := by
  rw [isProper, Bool.and_eq_true] at h
  simpa using h.1

theorem isProper_of_mem (h : (directory entries).isProper = true) (hmem : (name, t) ∈ entries) :
    isProperName name = true ∧ t.isProper = true := by
  rw [isProper, Bool.and_eq_true] at h
  exact areProper_iff.mp h.2 name t hmem

/-- A walk that goes from a directory to what is in it ends. -/
theorem sizeOf_lt_of_mem (h : (name, t) ∈ entries) : sizeOf t < sizeOf (directory entries) := by
  have hlt := List.sizeOf_lt_of_mem h
  simp only [Prod.mk.sizeOf_spec, directory.sizeOf_spec] at hlt ⊢
  omega

theorem mem_of_entryNamed? (h : entryNamed? name entries = some s) : (name, s) ∈ entries := by
  induction entries with
  | nil => cases h
  | cons e entries ih =>
      obtain ⟨n, r⟩ := e
      by_cases hn : n = name
      · simp only [entryNamed?, if_pos hn] at h
        cases h
        simp [hn]
      · simp only [entryNamed?, if_neg hn] at h
        exact List.mem_cons_of_mem _ (ih h)

/-- Names that occur once find the entry that they belong to. -/
theorem entryNamed?_of_mem (hnodup : (entries.map (·.1)).Nodup) (hmem : (name, s) ∈ entries) :
    entryNamed? name entries = some s := by
  induction entries with
  | nil => cases hmem
  | cons e entries ih =>
      obtain ⟨n, r⟩ := e
      rw [List.map_cons, List.nodup_cons] at hnodup
      rcases List.mem_cons.mp hmem with heq | hmem
      · cases heq
        simp [entryNamed?]
      · have hne : n ≠ name := by
          rintro rfl
          exact hnodup.1 (List.mem_map_of_mem (f := (·.1)) hmem)
        rw [entryNamed?, if_neg hne, ih hnodup.2 hmem]

/-- What is below a proper tree is proper. -/
theorem isProper_at? (h : t.isProper = true) (hat : t.at? place = some s) : s.isProper = true := by
  induction place generalizing t with
  | nil =>
      cases Option.some.inj hat
      exact h
  | cons name place ih =>
      cases t with
      | file => cases hat
      | link => cases hat
      | directory entries =>
          obtain ⟨r, hr, hat⟩ := Option.bind_eq_some_iff.mp hat
          exact ih (isProper_of_mem h (mem_of_entryNamed? hr)).2 hat

/-- The names that lead to something in a proper tree are proper. -/
theorem isProperName_of_at? (h : t.isProper = true) (hat : t.at? place = some s) :
    ∀ name ∈ place, isProperName name = true := by
  induction place generalizing t with
  | nil => simp
  | cons name place ih =>
      cases t with
      | file => cases hat
      | link => cases hat
      | directory entries =>
          obtain ⟨r, hr, hat⟩ := Option.bind_eq_some_iff.mp hat
          obtain ⟨hname, hproper⟩ := isProper_of_mem h (mem_of_entryNamed? hr)
          exact List.forall_mem_cons.mpr ⟨hname, ih hproper hat⟩

end Tree

end ModuleReadme
