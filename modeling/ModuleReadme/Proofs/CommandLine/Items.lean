import ModuleReadme.CommandLine.Options
import Mathlib.Data.List.TakeWhile

/-!
# The items of a command line

A command line is a list of items: positionals, options with their values, and the two dashes behind
which everything is positional. The reader checks a value only when it has understood what follows,
but that changes nothing: reading the arguments of some items comes to taking the items one after
the other (`readAll_arguments`), as long as there are no more than two positionals.
-/

namespace ModuleReadme.Arguments

/-!
## Items

An item is what the user means, together with the spelling. `arguments` spells it out and `take`
does what it asks for, as if it came alone.
-/

/-- What has been read through the two dashes. -/
def State.dashed (s : State) : State := { s with positionalOnly := true }

/-- The ways in which an option with its value can be written. -/
inductive Spelling where
  | short
  | shortJoined
  | shortEquals
  | long
  | longEquals
  deriving DecidableEq, Repr

inductive Item where
  | positional (value : String)
  | format (spelling : Spelling) (format : Format)
  | baseUrl (url : String)
  | declaredMethods
  | verbose (long : Bool)
  /-- The two dashes: everything behind them is positional. -/
  | dashes
  deriving DecidableEq, Repr

namespace Item

def arguments : Item → List String
  | positional value => [value]
  | format .short f => ["-f", f.option]
  | format .shortJoined f => ["-f" ++ f.option]
  | format .shortEquals f => ["-f=" ++ f.option]
  | format .long f => ["--format", f.option]
  | format .longEquals f => ["--format=" ++ f.option]
  | baseUrl url => ["--base-url=" ++ url]
  | declaredMethods => ["--declared-methods"]
  | verbose false => ["-v"]
  | verbose true => ["--verbose"]
  | dashes => ["--"]

/-- The value of a positional. -/
def positional? : Item → Option String
  | positional value => some value
  | _ => none

def positionals (item : Item) : Nat := item.positional?.toList.length

/-- Items that are read as what they are. A positional that begins with a dash, unless it is just a
dash, has to stand behind the two dashes, and an option in front of them. -/
def IsReadable (positionalOnly : Bool) : Item → Prop
  | positional value => positionalOnly = true ∨ value = "-" ∨ value.toList.head? ≠ some '-'
  | _ => positionalOnly = false

/-- Takes an item at once. -/
def take (s : State) : Item → Except Refusal State
  | positional value => do (← s.positional value).settle
  | format _ f => s.store .format f.option
  | baseUrl url => s.store .baseUrl url
  | declaredMethods => s.switch .declaredMethods
  | verbose _ => s.switch .verbose
  | dashes => .ok s.dashed

end Item

/-!
## Pending values

The reader stores a value when the next item comes, or at the end. `settle` stores what is pending;
a state and what it settles to are the same for all that follows.
-/

namespace State

/-- No option waits for its value. -/
def IsComplete (s : State) : Prop := ∀ slot, s.pending ≠ some (slot, none)

/-- Two states agree on what is counted and not stored: the positionals and the two dashes. -/
structure SameCourse (s t : State) : Prop where
  positionals : t.positionals = s.positionals
  positionalOnly : t.positionalOnly = s.positionalOnly

theorem store_eq_ok {s t : State} {slot : Slot} {value : String} (h : s.store slot value = .ok t) :
    t.pending = s.pending ∧ s.SameCourse t := by
  cases slot <;> grind [store, SameCourse]

theorem settle_eq_ok {s t : State} (h : s.settle = .ok t) : t.pending = none ∧ s.SameCourse t := by
  unfold settle at h
  split at h
  · next hnone =>
    cases h
    exact ⟨hnone, rfl, rfl⟩
  · cases h
  · obtain ⟨hpending, hsame⟩ := store_eq_ok h
    exact ⟨hpending, hsame.positionals, hsame.positionalOnly⟩

theorem settle_eq_self {s : State} (h : s.pending = none) : s.settle = .ok s := by
  rw [settle, h]

theorem isComplete_of_pending {s : State} (h : s.pending = none) : s.IsComplete := by
  intro slot hslot
  rw [h] at hslot
  cases hslot

theorem store_dashed (s : State) (slot : Slot) (value : String) :
    s.dashed.store slot value = (s.store slot value).map dashed := by
  cases slot with
  | modulePath => by_cases h : value = "" <;> simp [store, dashed, h, Except.map]
  | outputPath => by_cases h : value = "" <;> simp [store, dashed, h, Except.map]
  | format =>
      cases h : s.format with
      | some f => simp [store, dashed, h, Except.map]
      | none => cases hf : formatOf? value <;> simp [store, dashed, h, hf, Except.map]
  | baseUrl => cases h : s.baseUrl <;> simp [store, dashed, h, Except.map]

/-- The two dashes do not change what comes of a pending value. -/
theorem settle_dashed (s : State) : s.dashed.settle = s.settle.map dashed := by
  cases h : s.pending with
  | none => simp [settle, dashed, h, Except.map]
  | some waiting =>
      obtain ⟨slot, _ | value⟩ := waiting
      · simp [settle, dashed, h, Except.map]
      · have hstore := store_dashed { s with pending := none } slot value
        simpa [settle, dashed, h] using hstore

/-- A positional is only taken when what is pending has been checked. -/
theorem positional_eq {s : State} (h : s.positionals < 2) (value : String) :
    s.positional value = s.settle.bind (·.positional value) := by
  cases hs : s.settle with
  | error e =>
      -- A third positional would be refused before anything is checked.
      have hcases : s.positionals = 0 ∨ s.positionals = 1 := by omega
      rcases hcases with hzero | hone
      · rw [positional, hzero, hs]
        rfl
      · rw [positional, hone, hs]
        rfl
  | ok t =>
      obtain ⟨hpending, hsame⟩ := settle_eq_ok hs
      show s.positional value = t.positional value
      rw [positional, positional, hsame.positionals, hs, settle_eq_self hpending]

theorem switch_eq (s : State) (which : Switch) :
    s.switch which = s.settle.bind (·.switch which) := by
  cases hs : s.settle with
  | error e =>
      rw [switch, hs]
      rfl
  | ok t =>
      show s.switch which = t.switch which
      rw [switch, switch, hs, settle_eq_self (settle_eq_ok hs).1]

end State

/-!
## Reading an argument

For each spelling, what the reader does with the argument. All of this is in front of the two
dashes.
-/

section LongOptions

variable {name : List Char} (hname : '=' ∉ name)

include hname

theorem bne_of_not_mem : ∀ c ∈ name, (c != '=') = true := by
  intro c hc
  have hne : c ≠ '=' := fun heq => hname (heq ▸ hc)
  simpa using hne

/-- A long option takes the value behind the equals sign. -/
theorem readLong_attached {slot : Slot} (hlong : long? name = some (.inl slot)) (s : State)
    (value : String) : readLong s (name ++ '=' :: value.toList) = s.option slot (some value) := by
  have hfront := bne_of_not_mem hname
  rw [readLong, List.takeWhile_append_of_pos hfront, List.dropWhile_append_of_pos hfront]
  simp [hlong, attachedValue?]

/-- A long option without an equals sign is a switch, or waits for its value. -/
theorem readLong_bare {option : Slot ⊕ Switch} (hlong : long? name = some option) (s : State) :
    readLong s name = option.elim (s.option · none) s.switch := by
  have hall := bne_of_not_mem hname
  have htake : name.takeWhile (· != '=') = name := List.takeWhile_eq_self_iff.mpr hall
  have hdrop : name.dropWhile (· != '=') = [] := List.dropWhile_eq_nil_iff.mpr hall
  rw [readLong, htake, hdrop, hlong]
  cases option <;> rfl

end LongOptions

section

variable {s : State} (hs : s.positionalOnly = false)

include hs

theorem read_short : read s "-f" = s.option .format none := by
  have hread : read s "-f" = readLetters s ['f'] := by simp [read, hs]
  rw [hread]
  rfl

theorem read_shortEquals (value : String) :
    read s ("-f=" ++ value) = s.option .format (some value) := by
  simp [read, hs, readLetters, short?, joinedValue?]

theorem read_shortJoined (f : Format) :
    read s ("-f" ++ f.option) = s.option .format (some f.option) := by
  cases f <;> simp [read, hs, readLetters, short?, joinedValue?, Format.option]

theorem read_long : read s "--format" = s.option .format none := by
  have hread : read s "--format" = readLong s "format".toList := by simp [read, hs]
  rw [hread]
  exact readLong_bare (by decide) (by decide : long? _ = some (.inl .format)) s

theorem read_longEquals (value : String) :
    read s ("--format=" ++ value) = s.option .format (some value) := by
  have hread : read s ("--format=" ++ value) =
      readLong s ("format".toList ++ '=' :: value.toList) := by
    simp [read, hs]
  rw [hread]
  exact readLong_attached (by decide) (by decide) s value

theorem read_baseUrl (url : String) :
    read s ("--base-url=" ++ url) = s.option .baseUrl (some url) := by
  have hread : read s ("--base-url=" ++ url) =
      readLong s ("base-url".toList ++ '=' :: url.toList) := by
    simp [read, hs]
  rw [hread]
  exact readLong_attached (by decide) (by decide) s url

theorem read_declaredMethods : read s "--declared-methods" = s.switch .declaredMethods := by
  have hread : read s "--declared-methods" = readLong s "declared-methods".toList := by
    simp [read, hs]
  rw [hread]
  exact readLong_bare (by decide) (by decide : long? _ = some (.inr .declaredMethods)) s

theorem read_verbose : read s "--verbose" = s.switch .verbose := by
  have hread : read s "--verbose" = readLong s "verbose".toList := by simp [read, hs]
  rw [hread]
  exact readLong_bare (by decide) (by decide : long? _ = some (.inr .verbose)) s

theorem read_v : read s "-v" = s.switch .verbose := by
  have hread : read s "-v" = readLetters s ['v'] := by simp [read, hs]
  rw [hread, readLetters]
  simp only [short?]
  cases s.switch .verbose <;> rfl

theorem read_dashes : read s "--" = .ok s.dashed := by
  simp [read, hs, State.dashed]

theorem read_value {value : String} (hvalue : value = "-" ∨ value.toList.head? ≠ some '-') :
    read s value = readValue s value := by
  rw [read, if_neg (by simp [hs])]
  split <;> simp_all

end

/-!
## Reading an item

The step lemma: reading an item either fails as taking it would, or leads to a state that settles to
the one that taking it leads to. The item itself may be pending in this state.
-/

/-- What comes of reading an item: it is refused, or what is left to be checked comes to the same as
taking it. -/
inductive Step (s : State) (item : Item) : Prop where
  | refused {e : Refusal} (htake : s.settle.bind item.take = .error e)
      (hread : ∀ rest, readAll s (item.arguments ++ rest) = .error e)
  | taken {t : State} (htake : s.settle.bind item.take = t.settle) (hcomplete : t.IsComplete)
      (hpositionals : t.positionals = s.positionals + item.positionals)
      (honly : t.positionalOnly = (s.positionalOnly || item == .dashes))
      (hread : ∀ rest, readAll s (item.arguments ++ rest) = readAll t rest)

/-- An item that is read when what is pending has been checked. It is then stored at once, or
pending itself. -/
theorem Step.of_settle {s : State} {item : Item} {f : State → Except Refusal State}
    (hread : ∀ rest, readAll s (item.arguments ++ rest) = (s.settle.bind f).bind (readAll · rest))
    (herror : ∀ t e, t.pending = none → f t = .error e → item.take t = .error e)
    (hok : ∀ t u, t.pending = none → s.SameCourse t → f t = .ok u →
      item.take t = u.settle ∧ u.IsComplete ∧
        u.positionals = s.positionals + item.positionals ∧
        u.positionalOnly = (s.positionalOnly || item == .dashes)) :
    Step s item := by
  cases hs : s.settle with
  | error e =>
      refine .refused (by rw [hs]; rfl) fun rest => ?_
      rw [hread, hs]
      rfl
  | ok t =>
      obtain ⟨hpending, hsame⟩ := State.settle_eq_ok hs
      have hread' : ∀ rest, readAll s (item.arguments ++ rest) = (f t).bind (readAll · rest) := by
        intro rest
        rw [hread, hs]
        rfl
      -- What is pending is fine; now it is up to the item.
      cases hf : f t with
      | error e =>
          refine .refused (by rw [hs]; exact herror t e hpending hf) fun rest => ?_
          rw [hread', hf]
          rfl
      | ok u =>
          obtain ⟨htake, hcomplete, hpositionals, honly⟩ := hok t u hpending hsame hf
          refine .taken (by rw [hs]; exact htake) hcomplete hpositionals honly fun rest => ?_
          rw [hread', hf]
          rfl

theorem readAll_cons (s : State) (argument : String) (rest : List String) :
    readAll s (argument :: rest) = (read s argument).bind (readAll · rest) := rfl

theorem switch_eq_ok {t u : State} {which : Switch} (hpending : t.pending = none)
    (h : t.switch which = .ok u) : u.pending = none ∧ t.SameCourse u := by
  rw [State.switch, State.settle_eq_self hpending] at h
  simp only [bind, Except.bind] at h
  cases which <;> grind [State.SameCourse]

theorem positional_eq_ok {t u : State} {value : String} (hpending : t.pending = none)
    (h : t.positional value = .ok u) :
    u.IsComplete ∧ u.positionals = t.positionals + 1 ∧ u.positionalOnly = t.positionalOnly := by
  rw [State.positional, State.settle_eq_self hpending] at h
  split at h
  · next hzero =>
    cases h
    exact ⟨by simp [State.IsComplete], by simp [hzero], rfl⟩
  · next hone =>
    cases h
    exact ⟨by simp [State.IsComplete], by simp [hone], rfl⟩
  · cases h

theorem take_eq_ok {t u : State} {item : Item} (hpositionals : item.positionals = 0)
    (hdashes : item ≠ .dashes) (hpending : t.pending = none) (h : item.take t = .ok u) :
    u.pending = none ∧ t.SameCourse u := by
  -- An option with a value stores it, and the pending slot stays empty.
  have hstore : ∀ slot value, t.store slot value = .ok u → u.pending = none ∧ t.SameCourse u := by
    intro slot value hu
    obtain ⟨hu, hsame⟩ := State.store_eq_ok hu
    exact ⟨hu.trans hpending, hsame⟩
  cases item with
  | positional value => cases hpositionals
  | format spelling f => exact hstore .format f.option h
  | baseUrl url => exact hstore .baseUrl url h
  | declaredMethods => exact switch_eq_ok hpending (show t.switch .declaredMethods = .ok u from h)
  | verbose long => exact switch_eq_ok hpending (show t.switch .verbose = .ok u from h)
  | dashes => exact absurd rfl hdashes

/-- An item that is one argument and is stored when what is pending has been checked. -/
theorem Step.of_take {s : State} {item : Item} {argument : String}
    (harguments : item.arguments = [argument])
    (hread : read s argument = s.settle.bind item.take)
    (hpositionals : item.positionals = 0) (hdashes : item ≠ .dashes) : Step s item := by
  refine .of_settle (f := item.take) ?_ (fun _ _ _ h => h) ?_
  · intro rest
    rw [harguments, List.singleton_append, readAll_cons, hread]
  · intro t u hpending hsame hu
    obtain ⟨hnone, hcourse⟩ := take_eq_ok hpositionals hdashes hpending hu
    refine ⟨by rw [hu, State.settle_eq_self hnone], State.isComplete_of_pending hnone, ?_, ?_⟩
    · rw [hcourse.positionals, hsame.positionals, hpositionals, Nat.add_zero]
    · rw [hcourse.positionalOnly, hsame.positionalOnly]
      simp [hdashes]

/-- A format that is an argument of its own is pending when both arguments have been read. -/
theorem Step.of_separate {s : State} {spelling : Spelling} {f : Format} {argument : String}
    (hs : s.positionalOnly = false)
    (harguments : (Item.format spelling f).arguments = [argument, f.option])
    (hread : read s argument = s.option .format none) : Step s (.format spelling f) := by
  have hvalue : f.option = "-" ∨ f.option.toList.head? ≠ some '-' := by
    cases f <;> decide
  -- The first argument settles what was pending and opens the slot; the second one fills it.
  refine .of_settle (f := fun t => .ok { t with pending := some (.format, some f.option) }) ?_ ?_ ?_
  · intro rest
    have hoption : s.option .format none =
        s.settle.bind fun t => .ok { t with pending := some (.format, none) } := rfl
    rw [harguments, List.cons_append, readAll_cons, hread, hoption]
    cases hsettle : s.settle with
    | error e => rfl
    | ok t =>
        have ht : t.positionalOnly = false :=
          (State.settle_eq_ok hsettle).2.positionalOnly.trans hs
        show readAll { t with pending := some (.format, none) } (f.option :: rest) = _
        rw [readAll_cons, read_value (s := { t with pending := some (.format, none) }) ht hvalue]
        rfl
  · intro t e hpending he
    cases he
  · intro t u hpending hsame hu
    cases hu
    refine ⟨?_, by simp [State.IsComplete], hsame.positionals, ?_⟩
    · rw [State.settle, ← hpending]
      rfl
    · rw [← hsame.positionalOnly]
      simp

/-- Every item is read as what it is, whatever has been read before. -/
theorem step_of_isReadable {s : State} {item : Item} (hs : s.IsComplete)
    (hitem : item.IsReadable s.positionalOnly) (hcount : s.positionals + item.positionals ≤ 2) :
    Step s item := by
  -- One case for each kind of item, and one for each spelling of a format.
  cases item with
  | positional value =>
      have hread : read s value = s.positional value := by
        cases honly : s.positionalOnly with
        | true => rw [read, if_pos honly]
        | false =>
            have hvalue : value = "-" ∨ value.toList.head? ≠ some '-' := by
              simpa [Item.IsReadable, honly] using hitem
            rw [read_value honly hvalue, readValue]
            split
            · next slot hwaiting => exact absurd hwaiting (hs slot)
            · rfl
      have hlt : s.positionals + 1 ≤ 2 := hcount
      refine .of_settle (f := (·.positional value)) ?_ ?_ ?_
      · intro rest
        rw [← State.positional_eq hlt, ← hread]
        rfl
      · intro t e hpending he
        show (t.positional value).bind State.settle = _
        rw [he]
        rfl
      · intro t u hpending hsame hu
        obtain ⟨hcomplete, hpositionals, honly⟩ := positional_eq_ok hpending hu
        refine ⟨?_, hcomplete, ?_, ?_⟩
        · show (t.positional value).bind State.settle = _
          rw [hu]
          rfl
        · rw [hpositionals, hsame.positionals]
          rfl
        · rw [honly, hsame.positionalOnly]
          simp
  | format spelling f =>
      cases spelling with
      | short => exact .of_separate hitem rfl (read_short hitem)
      | shortJoined => exact .of_take rfl (read_shortJoined hitem f) rfl nofun
      | shortEquals => exact .of_take rfl (read_shortEquals hitem f.option) rfl nofun
      | long => exact .of_separate hitem rfl (read_long hitem)
      | longEquals => exact .of_take rfl (read_longEquals hitem f.option) rfl nofun
  | baseUrl url => exact .of_take rfl (read_baseUrl hitem url) rfl nofun
  | declaredMethods =>
      exact .of_take rfl ((read_declaredMethods hitem).trans (s.switch_eq _)) rfl nofun
  | verbose long =>
      cases long with
      | false => exact .of_take rfl ((read_v hitem).trans (s.switch_eq _)) rfl nofun
      | true => exact .of_take rfl ((read_verbose hitem).trans (s.switch_eq _)) rfl nofun
  | dashes =>
      have htake : s.settle.bind Item.dashes.take = s.dashed.settle := by
        rw [State.settle_dashed]
        cases s.settle <;> rfl
      refine .taken htake hs rfl (by simp [State.dashed]) fun rest => ?_
      show readAll s ("--" :: rest) = _
      rw [readAll_cons, read_dashes hitem]
      rfl

/-!
## Reading items

The steps are put together. Whether an item stands behind the two dashes is known from the items in
front of it, and so is the number of positionals.
-/

/-- Items that are all read as what they are, in front of the two dashes or behind them. -/
def AreReadable : Bool → List Item → Prop
  | _, [] => True
  | positionalOnly, item :: items =>
    item.IsReadable positionalOnly ∧ AreReadable (positionalOnly || item == .dashes) items

def positionalCount (items : List Item) : Nat := (items.filterMap Item.positional?).length

theorem positionalCount_cons (item : Item) (items : List Item) :
    positionalCount (item :: items) = item.positionals + positionalCount items := by
  cases item <;>
    simp [positionalCount, Item.positionals, Item.positional?, List.filterMap_cons, Nat.add_comm]

def takeAll (s : State) (items : List Item) : Except Refusal State :=
  items.foldlM (fun s item => item.take s) s

/-- Reading the arguments of some items comes to taking the items. -/
theorem readAll_arguments {s : State} (hs : s.IsComplete) {items : List Item}
    (hitems : AreReadable s.positionalOnly items)
    (hcount : s.positionals + positionalCount items ≤ 2) :
    readAll s (items.flatMap Item.arguments) = s.settle.bind (takeAll · items) := by
  -- What is reached settles as if the item had been taken; the induction goes on from there.
  induction items generalizing s with
  | nil =>
      show s.settle = _
      cases s.settle <;> rfl
  | cons item items ih =>
      obtain ⟨hitem, hitems⟩ := hitems
      have hsum : s.positionals + item.positionals + positionalCount items ≤ 2 := by
        rwa [positionalCount_cons, ← Nat.add_assoc] at hcount
      have htake : s.settle.bind (takeAll · (item :: items)) =
          (s.settle.bind item.take).bind (takeAll · items) := by
        cases s.settle <;> rfl
      rw [List.flatMap_cons, htake]
      cases step_of_isReadable hs hitem (by omega) with
      | refused hrefused hread =>
          rw [hread, hrefused]
          rfl
      | taken hsettle hcomplete hpositionals honly hread =>
          rw [hread, hsettle]
          exact ih hcomplete (honly ▸ hitems) (by omega)

end ModuleReadme.Arguments
