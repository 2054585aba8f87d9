import ModuleReadme.Proofs.CommandLine.Items
import Mathlib.Data.List.Induction

/-!
# Spelling out a request

What the user wants can be spelled out in many ways: the items stand in any order, as long as the
module comes before the output, and an option can be written in several ways or be left out if it
has its usual value. All these command lines are read as what they spell out, and an option that is
given once more is refused (`ofArguments_eq`).
-/

namespace ModuleReadme.Arguments

/-!
## Requests

A request says what is wanted, and `Spells` when some items ask for just that. Nothing is said
about the order of the items, but for the two positionals and the two dashes.
-/

/-- What a command line can ask for. -/
structure Request where
  modulePath : String
  outputPath : Option String := none
  format : Format := .markdown
  baseUrl : String := ({} : Appearance).baseUrl
  declaredMethods : Bool := false
  verbose : Bool := false

def Request.options (r : Request) : Options where
  modulePath := Path.ofString r.modulePath
  outputPath := r.outputPath.map Path.ofString
  format := r.format
  appearance := { baseUrl := r.baseUrl, declaredMethods := r.declaredMethods }
  verbose := r.verbose

inductive Kind where
  | format
  | baseUrl
  | declaredMethods
  | verbose
  deriving DecidableEq, Repr

namespace Item

def kind? : Item → Option Kind
  | format _ _ => some .format
  | baseUrl _ => some .baseUrl
  | declaredMethods => some .declaredMethods
  | verbose _ => some .verbose
  | _ => none

def format? : Item → Option Format
  | format _ f => some f
  | _ => none

def baseUrl? : Item → Option String
  | baseUrl url => some url
  | _ => none

end Item

/-- How often an option is given. -/
def given (k : Kind) (items : List Item) : Nat := items.countP (·.kind? == some k)

/-- The items spell out a request: the positionals are the module and the output, and every option
is given once, or not at all if it has its usual value. -/
structure Spells (items : List Item) (r : Request) : Prop where
  readable : AreReadable false items
  positionals : items.filterMap Item.positional? = r.modulePath :: r.outputPath.toList
  modulePath_ne : r.modulePath ≠ ""
  outputPath_ne : ∀ output ∈ r.outputPath, output ≠ ""
  format : items.filterMap Item.format? = [r.format] ∨
    items.filterMap Item.format? = [] ∧ r.format = .markdown
  baseUrl : items.filterMap Item.baseUrl? = [r.baseUrl] ∨
    items.filterMap Item.baseUrl? = [] ∧ r.baseUrl = ({} : Appearance).baseUrl
  declaredMethods : given .declaredMethods items = r.declaredMethods.toNat
  verbose : given .verbose items = r.verbose.toNat

/-!
## Taking items that fit

Items that fit are never refused, so that taking them is a fold. What the fold collects is told for
each field of the state on its own.
-/

/-- What is known when an item has been taken. -/
def State.after (s : State) : Item → State
  | .positional value => { s with
      positionals := s.positionals + 1
      modulePath := if s.positionals = 0 then some value else s.modulePath
      outputPath := if s.positionals = 0 then s.outputPath else some value }
  | .format _ f => { s with format := some f }
  | .baseUrl url => { s with baseUrl := some url }
  | .declaredMethods => { s with declaredMethods := true }
  | .verbose _ => { s with verbose := true }
  | .dashes => s.dashed

def State.has (s : State) : Kind → Bool
  | .format => s.format.isSome
  | .baseUrl => s.baseUrl.isSome
  | .declaredMethods => s.declaredMethods
  | .verbose => s.verbose

theorem formatOf?_option (f : Format) : State.formatOf? f.option = some f := by
  cases f <;> decide

/-- An option is stored if it has not been given, and is refused otherwise. -/
theorem take_option {s : State} {item : Item} {k : Kind} (hs : s.pending = none)
    (hk : item.kind? = some k) :
    item.take s = if s.has k then .error .givenTwice else .ok (s.after item) := by
  cases item with
  | positional value => cases hk
  | format spelling f =>
      cases hk
      rw [Item.take, State.store, formatOf?_option]
      rfl
  | baseUrl url =>
      cases hk
      rfl
  | declaredMethods =>
      cases hk
      rw [Item.take, State.switch, State.settle_eq_self hs]
      rfl
  | verbose long =>
      cases hk
      rw [Item.take, State.switch, State.settle_eq_self hs]
      rfl
  | dashes => cases hk

theorem take_positional {s : State} {value : String} (hs : s.pending = none)
    (hcount : s.positionals < 2) (hvalue : value ≠ "") :
    (Item.positional value).take s = .ok (s.after (.positional value)) := by
  have hcases : s.positionals = 0 ∨ s.positionals = 1 := by omega
  show (s.positional value).bind State.settle = _
  rcases hcases with hzero | hone
  · rw [State.positional, hzero, State.settle_eq_self hs]
    simp [bind, Except.bind, State.settle, State.store, hvalue, State.after, hzero, hs]
  · rw [State.positional, hone, State.settle_eq_self hs]
    simp [bind, Except.bind, State.settle, State.store, hvalue, State.after, hone, hs]

/-! ### What an item leaves behind -/

theorem pending_after (s : State) (item : Item) : (s.after item).pending = s.pending := by
  cases item <;> rfl

theorem format_after (s : State) (item : Item) :
    (s.after item).format = item.format?.or s.format := by
  cases item <;> rfl

theorem baseUrl_after (s : State) (item : Item) :
    (s.after item).baseUrl = item.baseUrl?.or s.baseUrl := by
  cases item <;> rfl

theorem has_after (s : State) (item : Item) (k : Kind) :
    (s.after item).has k = (s.has k || item.kind? == some k) := by
  cases item <;> cases k <;> simp [State.after, State.dashed, State.has, Item.kind?]

/-- The positionals that have been taken, the module first. -/
structure State.HasPositionals (s : State) (values : List String) : Prop where
  count : s.positionals = values.length
  modulePath : s.modulePath = values[0]?
  outputPath : s.outputPath = values[1]?

theorem State.HasPositionals.after {s : State} {values : List String} (h : s.HasPositionals values)
    {item : Item} (hcount : (values ++ item.positional?.toList).length ≤ 2) :
    (s.after item).HasPositionals (values ++ item.positional?.toList) := by
  cases item with
  | positional value =>
      -- There is room for one more, so at most one has been read.
      have hvalues : values = [] ∨ ∃ first, values = [first] := by
        simp only [Item.positional?, Option.toList_some, List.length_append,
          List.length_singleton] at hcount
        rw [← List.length_eq_one_iff, ← List.length_eq_zero_iff]
        omega
      obtain ⟨hpositionals, hmodule, houtput⟩ := h
      rcases hvalues with rfl | ⟨first, rfl⟩ <;>
        constructor <;> simp [State.after, Item.positional?, hpositionals, hmodule, houtput]
  | _ => simpa [Item.positional?] using ⟨h.count, h.modulePath, h.outputPath⟩

/-! ### What several items leave behind -/

/-- What has been collected when some items have been taken. -/
structure Collected (s : State) (items : List Item) : Prop where
  pending : s.pending = none
  positionals : s.HasPositionals (items.filterMap Item.positional?)
  format : s.format = (items.filterMap Item.format?).getLast?
  baseUrl : s.baseUrl = (items.filterMap Item.baseUrl?).getLast?
  has : ∀ k, s.has k = true ↔ 0 < given k items

theorem filterMap_concat {α : Type} (f : Item → Option α) (items : List Item) (item : Item) :
    (items ++ [item]).filterMap f = items.filterMap f ++ (f item).toList := by
  cases h : f item <;> simp [h]

theorem getLast?_append_toList {α : Type} (l : List α) (o : Option α) :
    (l ++ o.toList).getLast? = o.or l.getLast? := by
  cases o <;> simp

theorem given_append (k : Kind) (front back : List Item) :
    given k (front ++ back) = given k front + given k back := by
  simp [given]

/-- Taking items one after the other collects what they give, as long as there are no more than two
positionals. -/
theorem collected_foldl {items : List Item} (hcount : positionalCount items ≤ 2) :
    Collected (items.foldl State.after {}) items := by
  -- The last item comes last, so the induction takes items away from the end.
  induction items using List.reverseRecOn with
  | nil =>
      refine ⟨rfl, ⟨rfl, rfl, rfl⟩, rfl, rfl, ?_⟩
      intro k
      cases k <;> simp [State.has, given]
  | append_singleton items item ih =>
      have hcount' := hcount
      rw [positionalCount, filterMap_concat] at hcount'
      have h := ih (Nat.le_trans (by simp [positionalCount]) hcount')
      rw [List.foldl_append, List.foldl_cons, List.foldl_nil]
      refine ⟨?_, ?_, ?_, ?_, ?_⟩
      · rw [pending_after, h.pending]
      · rw [filterMap_concat]
        exact h.positionals.after hcount'
      · rw [format_after, h.format, filterMap_concat, getLast?_append_toList]
      · rw [baseUrl_after, h.baseUrl, filterMap_concat, getLast?_append_toList]
      · intro k
        rw [has_after, Bool.or_eq_true, h.has k, given_append]
        simp only [given, List.countP_singleton]
        split <;> simp_all

/-- Items of which none is refused: no more than two positionals, none of them empty, and no option
given twice. -/
structure Fits (items : List Item) : Prop where
  count : positionalCount items ≤ 2
  ne_empty : ∀ value ∈ items.filterMap Item.positional?, value ≠ ""
  once : ∀ k, given k items ≤ 1

theorem Fits.of_append {front back : List Item} (h : Fits (front ++ back)) : Fits front where
  count := by
    have hcount := h.count
    simp only [positionalCount, List.filterMap_append, List.length_append] at hcount ⊢
    omega
  ne_empty := by
    intro value hvalue
    exact h.ne_empty value (by simp [List.filterMap_append, hvalue])
  once := by
    intro k
    have honce := h.once k
    rw [given_append] at honce
    omega

theorem given_cons (k : Kind) (item : Item) (items : List Item) :
    given k (item :: items) = given k items + if item.kind? == some k then 1 else 0 :=
  List.countP_cons

theorem positional?_eq_none {item : Item} {k : Kind} (hk : item.kind? = some k) :
    item.positional? = none := by
  cases item <;> first | rfl | cases hk

/-- An option fits as well if it is given earlier. -/
theorem Fits.moved {front between back : List Item} {item again : Item} {k : Kind}
    (h : Fits (front ++ (between ++ item :: back))) (hk : item.kind? = some k)
    (hagain : again.kind? = some k) : Fits (front ++ again :: between) := by
  have hpositionals : (front ++ again :: between).filterMap Item.positional? =
      (front ++ between).filterMap Item.positional? := by
    simp [positional?_eq_none hagain]
  have hfront : Fits (front ++ between) := by
    rw [← List.append_assoc] at h
    exact h.of_append
  refine ⟨?_, ?_, ?_⟩
  · rw [positionalCount, hpositionals]
    exact hfront.count
  · rw [hpositionals]
    exact hfront.ne_empty
  · intro k'
    have honce := h.once k'
    -- The moved item counts for its own kind once, where the old one did.
    rw [given_append, given_append, given_cons, hk] at honce
    rw [given_append, given_cons, hagain]
    omega

/-- An item that fits with those that have been taken is taken as well. -/
theorem Collected.take_eq_ok {s : State} {items : List Item} (h : Collected s items) {item : Item}
    (hfits : Fits (items ++ [item])) : item.take s = .ok (s.after item) := by
  cases hk : item.kind? with
  | some k =>
      have honce := hfits.once k
      rw [given_append, given_cons, if_pos (by simp [hk])] at honce
      have hnew : ¬s.has k = true := by
        rw [h.has k]
        omega
      rw [take_option h.pending hk, if_neg hnew]
  | none =>
      -- What gives no option is a positional, or the two dashes, which are never refused.
      cases item with
      | positional value =>
          have hcount := hfits.count
          simp only [positionalCount, filterMap_concat, Item.positional?, Option.toList_some,
            List.length_append, List.length_singleton] at hcount
          have hne : value ≠ "" := hfits.ne_empty value (by simp [Item.positional?])
          refine take_positional h.pending ?_ hne
          rw [h.positionals.count]
          omega
      | dashes => rfl
      | _ => cases hk

theorem takeAll_append (s : State) (front back : List Item) :
    takeAll s (front ++ back) = (takeAll s front).bind (takeAll · back) := by
  rw [takeAll, List.foldlM_append]
  rfl

theorem takeAll_cons (s : State) (item : Item) (items : List Item) :
    takeAll s (item :: items) = (item.take s).bind (takeAll · items) := rfl

/-- Items that fit are taken one after the other. -/
theorem takeAll_eq_ok {items : List Item} (h : Fits items) :
    takeAll {} items = .ok (items.foldl State.after {}) := by
  induction items using List.reverseRecOn with
  | nil => rfl
  | append_singleton items item ih =>
      have hfront : Fits items := h.of_append
      have htake := (collected_foldl hfront.count).take_eq_ok h
      rw [takeAll_append, ih hfront, Except.bind, takeAll_cons, htake, List.foldl_append]
      rfl

/-- An option that is among the items that have been taken is refused when it comes again. -/
theorem takeAll_givenTwice {front : List Item} {item : Item} {k : Kind} (hfront : Fits front)
    (hk : item.kind? = some k) (hgiven : 0 < given k front) (back : List Item) :
    takeAll {} (front ++ item :: back) = .error .givenTwice := by
  have hcollected := collected_foldl hfront.count
  rw [takeAll_append, takeAll_eq_ok hfront, Except.bind, takeAll_cons,
    take_option hcollected.pending hk, if_pos ((hcollected.has k).mpr hgiven)]
  rfl

/-!
## Command lines

The state that is reached has what the request asks for. An option that is put in once more fits up
to the point where it comes the second time.
-/

theorem readAll_eq {items : List Item} (hitems : AreReadable false items)
    (hcount : positionalCount items ≤ 2) :
    readAll {} (items.flatMap Item.arguments) = takeAll {} items := by
  have hcomplete : State.IsComplete {} := State.isComplete_of_pending rfl
  rw [readAll_arguments hcomplete hitems (by simpa using hcount)]
  rfl

/-- An option can be put in anywhere in front of the two dashes. -/
theorem areReadable_insert {front back : List Item} {item : Item} (hdashes : .dashes ∉ front)
    (hitem : item.kind?.isSome) (h : AreReadable false (front ++ back)) :
    AreReadable false (front ++ item :: back) := by
  -- What stands in front does not change, and behind it the option changes nothing.
  induction front with
  | nil =>
      have hreadable : item.IsReadable false ∧ (item == .dashes) = false := by
        cases item <;> simp_all [Item.kind?, Item.IsReadable]
      refine ⟨hreadable.1, ?_⟩
      rw [hreadable.2]
      exact h
  | cons first front ih =>
      obtain ⟨hfirst, hrest⟩ := h
      rw [List.mem_cons, not_or] at hdashes
      have hne : (first == Item.dashes) = false := by simpa using Ne.symm hdashes.1
      refine ⟨hfirst, ?_⟩
      rw [hne] at hrest ⊢
      exact ih hdashes.2 hrest

/-- An option with a value is given as often as there are values. -/
theorem given_eq_length {α : Type} {k : Kind} {value? : Item → Option α}
    (h : ∀ item : Item, (item.kind? == some k) = (value? item).isSome) (items : List Item) :
    given k items = (items.filterMap value?).length := by
  rw [List.length_filterMap_eq_countP, given]
  congr 1
  funext item
  exact h item

theorem given_format (items : List Item) :
    given .format items = (items.filterMap Item.format?).length := by
  apply given_eq_length
  intro item
  cases item <;> rfl

theorem given_baseUrl (items : List Item) :
    given .baseUrl items = (items.filterMap Item.baseUrl?).length := by
  apply given_eq_length
  intro item
  cases item <;> rfl

/-- The value that is given, or else the usual one. -/
theorem getD_getLast? {α : Type} {values : List α} {value usual : α}
    (h : values = [value] ∨ values = [] ∧ value = usual) : values.getLast?.getD usual = value := by
  rcases h with rfl | ⟨rfl, rfl⟩ <;> rfl

theorem Collected.has_eq {s : State} {items : List Item} (h : Collected s items) {k : Kind}
    {switched : Bool} (hgiven : given k items = switched.toNat) : s.has k = switched := by
  have hhas := h.has k
  rw [hgiven] at hhas
  cases switched <;> simpa using hhas

variable {items : List Item} {r : Request}

theorem Spells.fits (h : Spells items r) : Fits items where
  count := by
    rw [positionalCount, h.positionals]
    cases r.outputPath <;> simp
  ne_empty := by
    intro value hvalue
    rw [h.positionals, List.mem_cons, Option.mem_toList] at hvalue
    rcases hvalue with rfl | houtput
    · exact h.modulePath_ne
    · exact h.outputPath_ne value houtput
  once := by
    intro k
    cases k with
    | format =>
        rw [given_format]
        rcases h.format with hformat | ⟨hformat, -⟩ <;> simp [hformat]
    | baseUrl =>
        rw [given_baseUrl]
        rcases h.baseUrl with hurl | ⟨hurl, -⟩ <;> simp [hurl]
    | declaredMethods =>
        rw [h.declaredMethods]
        exact Bool.toNat_le r.declaredMethods
    | verbose =>
        rw [h.verbose]
        exact Bool.toNat_le r.verbose

/-- What has been collected from the items of a request are the options that it asks for. -/
theorem Spells.options_eq (h : Spells items r) :
    (items.foldl State.after {}).options = .ok r.options := by
  -- Field by field, what the items leave behind is what the request asks for.
  have hcollected := collected_foldl h.fits.count
  have hmodule : (items.foldl State.after {}).modulePath = some r.modulePath := by
    rw [hcollected.positionals.modulePath, h.positionals]
    rfl
  have houtput : (items.foldl State.after {}).outputPath = r.outputPath := by
    rw [hcollected.positionals.outputPath, h.positionals]
    cases r.outputPath <;> rfl
  have hformat : (items.foldl State.after {}).format.getD .markdown = r.format := by
    rw [hcollected.format]
    exact getD_getLast? h.format
  have hurl : (items.foldl State.after {}).baseUrl.getD ({} : Appearance).baseUrl = r.baseUrl := by
    rw [hcollected.baseUrl]
    exact getD_getLast? h.baseUrl
  have hdeclared : (items.foldl State.after {}).declaredMethods = r.declaredMethods :=
    hcollected.has_eq h.declaredMethods
  have hverbose : (items.foldl State.after {}).verbose = r.verbose :=
    hcollected.has_eq h.verbose
  rw [State.options, hmodule]
  simp only [houtput, hformat, hurl, hdeclared, hverbose, Request.options]

/-- A command line that spells out a request is read as this request, in whatever order and spelling
its items are given. The README then goes to the output, or else into the module. If one of the
options is given once more in front of the two dashes, the command line is refused. -/
theorem ofArguments_eq (h : Spells items r) :
    Options.ofArguments (items.flatMap Item.arguments) = .ok r.options ∧
      r.options.readmePath = (match r.outputPath with
        | some output => Path.ofString output
        | none => (Path.ofString r.modulePath).join (Path.ofString "README.md")) ∧
      ∀ front back again, items = front ++ back → .dashes ∉ front → again.kind?.isSome →
        (∃ item ∈ items, item.kind? = again.kind?) →
        Options.ofArguments ((front ++ again :: back).flatMap Item.arguments) =
          .error .givenTwice := by
  refine ⟨?_, ?_, ?_⟩
  · -- Reading is taking, and what has been taken are the options of the request.
    show (readAll {} _).bind State.options = _
    rw [readAll_eq h.readable h.fits.count, takeAll_eq_ok h.fits]
    exact h.options_eq
  · cases hr : r.outputPath <;> simp [Options.readmePath, Request.options, hr, readmeName]
  · rintro front back again rfl hdashes hagain ⟨item, hitem, hkind⟩
    obtain ⟨k, hk⟩ := Option.isSome_iff_exists.mp hagain
    have hcount : positionalCount (front ++ again :: back) ≤ 2 := by
      have hfits := h.fits.count
      simpa [positionalCount, List.filterMap_cons, positional?_eq_none hk] using hfits
    have htwice : takeAll {} (front ++ again :: back) = .error .givenTwice := by
      rcases List.mem_append.mp hitem with hfront | hback
      · have hgiven : 0 < given k front :=
          List.countP_pos_iff.mpr ⟨item, hfront, by simp [hkind, hk]⟩
        exact takeAll_givenTwice h.fits.of_append hk hgiven back
      · -- The item that was there before comes second now.
        obtain ⟨between, behind, rfl⟩ := List.append_of_mem hback
        have hfits : Fits (front ++ again :: between) := h.fits.moved (hkind.trans hk) hk
        have hgiven : 0 < given k (front ++ again :: between) :=
          List.countP_pos_iff.mpr ⟨again, by simp, by simp [hk]⟩
        have herror := takeAll_givenTwice hfits (hkind.trans hk) hgiven behind
        rwa [List.append_assoc, List.cons_append] at herror
    show (readAll {} _).bind State.options = _
    rw [readAll_eq (areReadable_insert hdashes hagain h.readable) hcount, htwice]
    rfl

/-- A request with values that look like options, and what comes of a second format. -/
theorem ofArguments_eq_chat :
    let r : Request := {
      modulePath := "-", outputPath := some "--help", format := .json, baseUrl := "-v"
      verbose := true }
    Options.ofArguments ["-f", "json", "-", "--base-url=-v", "--verbose", "--", "--help"] =
        .ok r.options ∧
      Options.ofArguments ["-f", "json", "-", "--format=markdown", "--base-url=-v", "--verbose",
        "--", "--help"] = .error .givenTwice := by
  intro r
  have h : Spells [.format .short .json, .positional "-", .baseUrl "-v", .verbose true, .dashes,
      .positional "--help"] r := {
    readable := by simp [AreReadable, Item.IsReadable]
    positionals := rfl
    modulePath_ne := by decide
    outputPath_ne := by simp [r]
    format := .inl rfl
    baseUrl := .inl rfl
    declaredMethods := rfl
    verbose := rfl }
  -- The second list repeats the format, spelled another way, between the items of the first one.
  refine ⟨(ofArguments_eq h).1, ?_⟩
  exact (ofArguments_eq h).2.2 [.format .short .json, .positional "-"] _
    (.format .longEquals .markdown) rfl (by decide) rfl ⟨.format .short .json, by simp, rfl⟩

end ModuleReadme.Arguments
