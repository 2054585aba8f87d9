import ModuleReadme.CommandLine.Program
import ModuleReadme.Proofs.Module.Contents
import ModuleReadme.Proofs.Pattern.Reading
import ModuleReadme.Proofs.Text.Lines
import Mathlib.Data.List.Induction
import Mathlib.Data.List.Nodup

/-!
# What is shown of a log

A run logs the same events whatever the environment says: the filter that comes from it decides
which of them are shown, and nothing else hangs on it (`program_congr`). An event is shown if the
directive that decides for its component lets it through and its message matches the pattern of the
filter (`mem_apply_iff`); a word for a pattern picks the events with the word in their messages
(`mem_apply_ofText_word`). Where the environment is silent, all warnings of an analysis are shown
and no others (`warnings_program`).
-/

namespace ModuleReadme

/-! ## The directive that decides

Several directives may speak for a component. The one with the longest target decides, and of
several with targets as long the last one. The search goes through the directives once and keeps
the best that it has seen, so it is described by what stands in front of that and what stands
behind it.
-/

namespace Directive

variable {directives front back : List Directive} {component : String} {d e : Directive}

/-! ### What a directive matches -/

/-- A directive without a target speaks for everything, and matches nothing of it. -/
theorem matchLength?_of_target_eq_none (h : d.target = none) (component : String) :
    d.matchLength? component = some 0 := by
  rw [Directive.matchLength?, h]

theorem matchLength?_eq_some_iff {target : String} {n : Nat}
    (h : d.target = some target) :
    d.matchLength? component = some n ↔
      target.toList <+: component.toList ∧ target.utf8ByteSize = n := by
  rw [Directive.matchLength?, h]
  simp

/-- A beginning that takes up as many bytes as the whole text is the whole. -/
theorem eq_of_isPrefix_of_size_eq {s r : String} (h : s.toList <+: r.toList)
    (hsize : s.utf8ByteSize = r.utf8ByteSize) : s = r := by
  obtain ⟨more, hmore⟩ := h
  rw [← Text.byteSize_toList, ← Text.byteSize_toList, ← hmore, Text.byteSize_append] at hsize
  have hempty : String.ofList more = "" := by
    rw [← String.utf8ByteSize_eq_zero_iff]
    exact Nat.left_eq_add.mp hsize
  have hnil : more = [] := by simpa using hempty
  rw [hnil, List.append_nil] at hmore
  exact String.ext hmore

/-- Directives with different targets match different lengths of a component, unless one of them
matches nothing of it. -/
theorem target_eq_of_matchLength?_eq {n : Nat}
    (hd : d.matchLength? component = some n) (he : e.matchLength? component = some n)
    (hn : n ≠ 0) : d.target = e.target := by
  have htarget {f : Directive} (hf : f.matchLength? component = some n) :
      ∃ target, f.target = some target := by
    refine Option.ne_none_iff_exists'.mp fun hnone => hn ?_
    rw [matchLength?_of_target_eq_none hnone] at hf
    exact (Option.some.inj hf).symm
  obtain ⟨t, ht⟩ := htarget hd
  obtain ⟨u, hu⟩ := htarget he
  obtain ⟨htfront, htsize⟩ := (matchLength?_eq_some_iff ht).mp hd
  obtain ⟨hufront, husize⟩ := (matchLength?_eq_some_iff hu).mp he
  rw [ht, hu]
  obtain h | h := List.prefix_or_prefix_of_prefix htfront hufront
  · rw [eq_of_isPrefix_of_size_eq h (htsize.trans husize.symm)]
  · rw [eq_of_isPrefix_of_size_eq h (husize.trans htsize.symm)]

/-! ### Precedence -/

/-- No directive in front of it has a longer target, and none behind it has one as long. -/
def Decides (directives : List Directive) (component : String) (d : Directive) : Prop :=
  ∃ front back length, directives = front ++ d :: back ∧
    d.matchLength? component = some length ∧
    (∀ e ∈ front, ∀ n, e.matchLength? component = some n → n ≤ length) ∧
    (∀ e ∈ back, ∀ n, e.matchLength? component = some n → n < length)

/-- The length of the best match so far and its rank, once another directive has been looked at. -/
def better (component : String) (best : Nat × Nat) (d : Directive) : Nat × Nat :=
  match d.matchLength? component with
  | none => best
  | some length => if best.1 ≤ length then (length, d.rank) else best

theorem rankFor_eq_foldl :
    rankFor directives component = (directives.foldl (better component) (0, 0)).2 := rfl

theorem foldl_better_le {bound : Nat} (best : Nat × Nat)
    (h : ∀ e ∈ directives, ∀ n, e.matchLength? component = some n → n ≤ bound)
    (hbest : best.1 ≤ bound) : (directives.foldl (better component) best).1 ≤ bound := by
  induction directives generalizing best with
  | nil => exact hbest
  | cons d rest ih =>
      obtain ⟨hd, hrest⟩ := List.forall_mem_cons.mp h
      rw [List.foldl_cons]
      apply ih _ hrest
      unfold better
      split
      · exact hbest
      · next n hn =>
        split
        · exact hd n hn
        · exact hbest

theorem foldl_better_eq_self {best : Nat × Nat}
    (h : ∀ e ∈ directives, ∀ n, e.matchLength? component = some n → n < best.1) :
    directives.foldl (better component) best = best := by
  induction directives with
  | nil => rfl
  | cons d rest ih =>
      obtain ⟨hd, hrest⟩ := List.forall_mem_cons.mp h
      have hstep : better component best d = best := by
        unfold better
        split
        · rfl
        · next n hn => rw [if_neg (Nat.not_le.mpr (hd n hn))]
      rw [List.foldl_cons, hstep, ih hrest]

theorem Decides.rankFor_eq (h : Decides directives component d) :
    rankFor directives component = d.rank := by
  obtain ⟨front, back, length, rfl, hlength, hfront, hback⟩ := h
  have hbest := foldl_better_le (0, 0) hfront (Nat.zero_le length)
  have hstep : better component (front.foldl (better component) (0, 0)) d = (length, d.rank) := by
    rw [better, hlength]
    exact if_pos hbest
  rw [rankFor_eq_foldl, List.foldl_append, List.foldl_cons, hstep, foldl_better_eq_self hback]

theorem Decides.mem (h : Decides directives component d) : d ∈ directives := by
  obtain ⟨front, back, length, rfl, -⟩ := h
  exact List.mem_append_right front (List.mem_cons_self ..)

/-- Whoever speaks for the component has no longer target than the one that decides. -/
theorem Decides.exists_le {n : Nat} (h : Decides directives component d) (he : e ∈ directives)
    (hn : e.matchLength? component = some n) :
    ∃ length, d.matchLength? component = some length ∧ n ≤ length := by
  obtain ⟨front, back, length, rfl, hlength, hfront, hback⟩ := h
  refine ⟨length, hlength, ?_⟩
  obtain he | he | he := by simpa using he
  · exact hfront e he n hn
  · subst he
    rw [hlength] at hn
    cases hn
    exact Nat.le_refl _
  · exact Nat.le_of_lt (hback e he n hn)

theorem rankFor_eq_zero (h : ∀ d ∈ directives, d.matchLength? component = none) :
    rankFor directives component = 0 := by
  rw [rankFor_eq_foldl, foldl_better_eq_self]
  intro e he n hn
  rw [h e he] at hn
  cases hn

/-- Some directive decides unless none speaks for the component at all. -/
theorem exists_decides (directives : List Directive) (component : String) :
    (∀ d ∈ directives, d.matchLength? component = none) ∨
      ∃ d, Decides directives component d := by
  -- The induction adds directives at the end, as the last one of several with equal targets
  -- decides.
  induction directives using List.reverseRecOn with
  | nil => exact .inl fun d hd => absurd hd List.not_mem_nil
  | append_singleton rest d ih =>
      cases hd : d.matchLength? component with
      | none =>
          have hlast : ∀ e ∈ [d], ∀ n, e.matchLength? component ≠ some n := by
            simp [hd]
          obtain hsilent | ⟨e, front, back, length, rfl, he, hfront, hback⟩ := ih
          · left
            simpa [or_imp, forall_and, hd] using hsilent
          · right
            refine ⟨e, front, back ++ [d], length, by simp, he, hfront, ?_⟩
            intro f hf n hn
            obtain hf | hf := List.mem_append.mp hf
            · exact hback f hf n hn
            · exact absurd hn (hlast f hf n)
      | some n =>
          right
          obtain hsilent | ⟨e, front, back, length, rfl, he, hfront, hback⟩ := ih
          · refine ⟨d, rest, [], n, rfl, hd, ?_, by simp⟩
            intro f hf m hm
            rw [hsilent f hf] at hm
            cases hm
          · by_cases hle : length ≤ n
            · -- The last directive matches as much as the one that has decided so far, or more.
              refine ⟨d, front ++ e :: back, [], n, rfl, hd, ?_, by simp⟩
              intro f hf m hm
              obtain hf | hf | hf := by simpa using hf
              · exact Nat.le_trans (hfront f hf m hm) hle
              · subst hf
                rw [he] at hm
                cases hm
                exact hle
              · exact Nat.le_trans (Nat.le_of_lt (hback f hf m hm)) hle
            · refine ⟨e, front, back ++ [d], length, by simp, he, hfront, ?_⟩
              intro f hf m hm
              obtain hf | hf := by simpa using hf
              · exact hback f hf m hm
              · subst hf
                rw [hd] at hm
                cases hm
                exact Nat.not_le.mp hle

/-! ### Directives that are written down

A directive takes the place of an earlier one with the same target, so no target is there twice.
-/

theorem mem_insert_iff (hnodup : (directives.map (·.target)).Nodup) :
    e ∈ insert d directives ↔ e = d ∨ e ∈ directives ∧ e.target ≠ d.target := by
  induction directives with
  | nil => simp [insert]
  | cons f rest ih =>
      obtain ⟨hf, hrest⟩ := List.nodup_cons.mp hnodup
      unfold insert
      split
      · next htarget =>
        -- The directive goes to the place of `f`, and no other one has the target of `f`.
        have hother : e ∈ rest → e.target ≠ d.target := by
          intro he heq
          exact hf (List.mem_map.mpr ⟨e, he, heq.trans htarget.symm⟩)
        have hself : e = f → ¬ e.target ≠ d.target := by
          rintro rfl
          exact not_not_intro htarget
        simp only [List.mem_cons]
        tauto
      · next htarget =>
        have hself : e = f → e.target ≠ d.target := by
          rintro rfl
          exact htarget
        simp only [List.mem_cons, ih hrest]
        tauto

theorem mem_targets_insert {target : Option String} :
    target ∈ (insert d directives).map (·.target) ↔
      target = d.target ∨ target ∈ directives.map (·.target) := by
  induction directives with
  | nil => simp [insert]
  | cons f rest ih =>
      unfold insert
      split
      · next htarget =>
        simp [htarget]
      · simp only [List.map_cons, List.mem_cons, ih]
        tauto

theorem nodup_insert (hnodup : (directives.map (·.target)).Nodup) :
    ((insert d directives).map (·.target)).Nodup := by
  induction directives with
  | nil => simp [insert]
  | cons f rest ih =>
      obtain ⟨hf, hrest⟩ := List.nodup_cons.mp hnodup
      unfold insert
      split
      · next htarget =>
        rw [List.map_cons, List.nodup_cons, ← htarget]
        exact ⟨hf, hrest⟩
      · next htarget =>
        rw [List.map_cons, List.nodup_cons, mem_targets_insert]
        exact ⟨fun h => h.elim htarget hf, ih hrest⟩

/-- The directives that the pieces of a text spell out, one for each piece. -/
def spelledOut (text : List Char) : List Directive :=
  (((text.splitOn ',').map Text.trim).filter (!·.isEmpty)).filterMap ofPiece?

/-- No target is there twice, and of several directives for one target the last one counts. -/
theorem foldl_insert (pieces : List Directive) :
    ((pieces.foldl (fun ds d => insert d ds) []).map (·.target)).Nodup ∧
      ∀ d, d ∈ pieces.foldl (fun ds d => insert d ds) [] ↔
        ∃ front back, pieces = front ++ d :: back ∧ ∀ e ∈ back, e.target ≠ d.target := by
  induction pieces using List.reverseRecOn with
  | nil => simp
  | append_singleton rest last ih =>
      obtain ⟨hnodup, hmem⟩ := ih
      rw [List.foldl_append, List.foldl_cons, List.foldl_nil]
      refine ⟨nodup_insert hnodup, fun d => ?_⟩
      -- A directive is left if it is the last one, or was left before and has another target.
      rw [mem_insert_iff hnodup, hmem]
      constructor
      · rintro (rfl | ⟨⟨front, back, rfl, hback⟩, htarget⟩)
        · exact ⟨rest, [], rfl, by simp⟩
        · refine ⟨front, back ++ [last], by simp, ?_⟩
          intro e he
          obtain he | he := by simpa using he
          · exact hback e he
          · subst he
            exact htarget.symm
      · rintro ⟨front, back, heq, hback⟩
        obtain rfl | ⟨more, final, rfl⟩ := List.eq_nil_or_concat back
        · left
          exact (List.cons.inj (List.append_inj_right' heq rfl)).1.symm
        · right
          have heq : rest ++ [last] = (front ++ d :: more) ++ [final] := by
            simpa using heq
          obtain ⟨rfl, hlast⟩ := List.append_inj' heq rfl
          cases hlast
          exact ⟨⟨front, more, rfl, fun e he => hback e (by simp [he])⟩,
            (hback last (by simp)).symm⟩

theorem nodup_ofText (text : List Char) : ((ofText text).map (·.target)).Nodup :=
  (foldl_insert (spelledOut text)).1

theorem mem_ofText_iff {text : List Char} :
    d ∈ ofText text ↔ ∃ front back, spelledOut text = front ++ d :: back ∧
      ∀ e ∈ back, e.target ≠ d.target :=
  (foldl_insert (spelledOut text)).2 d

end Directive

/-!
## Filters

Levels have ranks from one on, and where no directive speaks the rank is zero. So what nothing
speaks for is not shown.
-/

theorem Level.rank_pos (l : Level) : 0 < l.rank := by
  cases l <;> decide

namespace Filter

variable {filter : Filter} {e : Event} {events : List Event}

/-- A filter without directives shows errors. Otherwise a directive has to let the event through. -/
theorem mem_apply_iff :
    e ∈ filter.apply events ↔ e ∈ events ∧
      (∀ p ∈ filter.pattern, p.occursIn e.message = true) ∧
      (filter.directives = [] ∧ e.level = .error ∨
        ∃ d, Directive.Decides filter.directives e.target d ∧ e.level.rank ≤ d.rank) := by
  -- The rank that the filter has for the component, in terms of directives.
  have hrank : e.level.rank ≤ filter.rankFor e.target ↔
      filter.directives = [] ∧ e.level = .error ∨
        ∃ d, Directive.Decides filter.directives e.target d ∧ e.level.rank ≤ d.rank := by
    cases hds : filter.directives with
    | nil =>
        have hnone : ¬ ∃ d, Directive.Decides [] e.target d ∧ e.level.rank ≤ d.rank := by
          rintro ⟨d, ⟨front, back, length, hempty, -⟩, -⟩
          simp at hempty
        have herror : e.level.rank ≤ Level.error.rank ↔ e.level = .error := by
          cases e.level <;> decide
        simp [rankFor, hds, hnone, herror]
    | cons f rest =>
        have hne : filter.directives.isEmpty = false := by rw [hds]; rfl
        rw [rankFor, hne, if_neg Bool.false_ne_true, hds]
        constructor
        · intro hle
          right
          obtain hsilent | ⟨d, hd⟩ := Directive.exists_decides (f :: rest) e.target
          · rw [Directive.rankFor_eq_zero hsilent] at hle
            exact absurd e.level.rank_pos (Nat.not_lt.mpr hle)
          · exact ⟨d, hd, hd.rankFor_eq ▸ hle⟩
        · rintro (⟨hempty, -⟩ | ⟨d, hd, hle⟩)
          · cases hempty
          · exact hd.rankFor_eq ▸ hle
  have hpattern : filter.pattern.all (·.occursIn e.message) = true ↔
      ∀ p ∈ filter.pattern, p.occursIn e.message = true := by
    cases filter.pattern <;> simp
  rw [apply, List.mem_filter, admits, Bool.and_eq_true, decide_eq_true_eq, hrank, hpattern,
    and_comm (b := ∀ p ∈ filter.pattern, _)]

theorem ofText_eq {directives : String} (h : '/' ∉ directives.toList) :
    ofText directives = { directives := Directive.ofText directives.toList, pattern := none } := by
  rw [ofText, List.splitOn_eq_singleton h]

/-- A word behind a slash picks the events with the word in their messages. -/
theorem mem_apply_ofText_word {directives word : String} (hdirectives : '/' ∉ directives.toList)
    (hplain : ∀ c ∈ word.toList, Pattern.IsPlain c) (hslash : '/' ∉ word.toList) (hne : word ≠ "")
    (hlength : (Text.encode word).length ≤ 327673) :
    e ∈ (ofText (directives ++ "/" ++ word)).apply events ↔
      e ∈ (ofText directives).apply events ∧ word.toList <:+: e.message.toList := by
  have htext : (directives ++ "/" ++ word).toList = directives.toList ++ '/' :: word.toList := by
    simp
  have hfilter : ofText (directives ++ "/" ++ word) =
      { directives := Directive.ofText directives.toList
        pattern := some (.literal word.toList) } := by
    rw [ofText, htext, List.splitOn_append_cons_self_of_not_mem hdirectives,
      List.splitOn_eq_singleton hslash]
    simp only [String.ofList_toList, Pattern.ofText?_word hplain hne hlength]
  rw [hfilter, ofText_eq hdirectives, mem_apply_iff, mem_apply_iff]
  simp only [Option.mem_def, Option.some.injEq, forall_eq', Pattern.occursIn_literal_iff,
    reduceCtorEq, false_imp_iff, implies_true, true_and]
  tauto

end Filter

/-!
## The filter of the program

The option `-v` adds a directive without a target, which matches nothing of any component. It
decides where no other one speaks, and never against one that names the component.
-/

/-- Where the environment is silent, the level is all that counts. -/
theorem apply_logFilter_none (verbose : Bool) (events : List Event) :
    (logFilter verbose none).apply events =
      (if verbose then Level.debug else .info).select events := by
  have hempty : Filter.ofText "" = { directives := [], pattern := none } := by
    simp [Filter.ofText, Directive.ofText, Text.trim, Text.trimStart, Text.trimEnd,
      Text.dropEndWhile]
  have hadmits (level : Level) (e : Event) :
      ((Filter.ofText "").insert { target := none, rank := level.rank }).admits e =
        decide (e.level.rank ≤ level.rank) := by
    rw [hempty]
    exact Bool.and_true _
  cases verbose <;> exact List.filter_congr fun e _ => hadmits _ e

theorem nodup_directives_ofText (text : String) :
    ((Filter.ofText text).directives.map (·.target)).Nodup := by
  rw [Filter.ofText]
  split
  · exact Directive.nodup_ofText _
  · exact Directive.nodup_ofText _
  · exact List.nodup_nil

section Verbose

variable {environment : Option String} {component : String}

theorem mem_directives_verbose {d : Directive} :
    d ∈ (logFilter true environment).directives ↔
      d = { target := none, rank := Level.debug.rank } ∨
        d ∈ (Filter.ofText (environment.getD "")).directives ∧ d.target ≠ none :=
  Directive.mem_insert_iff (nodup_directives_ofText (environment.getD ""))

/-- Some directive decides for each component, since there is one that speaks for all of them. -/
theorem exists_decides_verbose (environment : Option String) (component : String) :
    ∃ d, Directive.Decides (logFilter true environment).directives component d ∧
      (logFilter true environment).rankFor component = d.rank := by
  have hdefault := mem_directives_verbose.mpr (.inl rfl : _ ∨
    _ ∈ (Filter.ofText (environment.getD "")).directives ∧ _)
  obtain hsilent | ⟨d, hd⟩ :=
    Directive.exists_decides (logFilter true environment).directives component
  · have hnone := hsilent _ hdefault
    rw [Directive.matchLength?_of_target_eq_none rfl] at hnone
    cases hnone
  · refine ⟨d, hd, ?_⟩
    rw [Filter.rankFor, if_neg, hd.rankFor_eq]
    intro hempty
    rw [List.isEmpty_iff.mp hempty] at hdefault
    cases hdefault

/-- With `-v` everything up to `debug` is shown from a component that no directive of the
environment names. -/
theorem rankFor_verbose (h : ∀ d ∈ (Filter.ofText (environment.getD "")).directives,
      d.target ≠ none → d.matchLength? component = none) :
    (logFilter true environment).rankFor component = Level.debug.rank := by
  obtain ⟨d, hd, hrank⟩ := exists_decides_verbose environment component
  rw [hrank]
  obtain rfl | ⟨hmem, htarget⟩ := mem_directives_verbose.mp hd.mem
  · rfl
  · obtain ⟨_, _, length, -, hlength, -⟩ := hd
    rw [h d hmem htarget] at hlength
    cases hlength

/-- What a directive of the environment says of a component that it names holds with `-v` as well. -/
theorem rankFor_verbose_of_named {d : Directive} {n : Nat}
    (hd : d ∈ (Filter.ofText (environment.getD "")).directives)
    (hn : d.matchLength? component = some n) (hpos : n ≠ 0) :
    (logFilter true environment).rankFor component =
      (Filter.ofText (environment.getD "")).rankFor component := by
  let directives := (Filter.ofText (environment.getD "")).directives
  have hnamed {e : Directive} {m : Nat} (he : e.matchLength? component = some m) (hm : n ≤ m) :
      e.target ≠ none := by
    intro hnone
    rw [Directive.matchLength?_of_target_eq_none hnone] at he
    cases he
    omega
  obtain hsilent | ⟨e, he⟩ := Directive.exists_decides directives component
  · rw [hsilent d hd] at hn
    cases hn
  have hbefore : (Filter.ofText (environment.getD "")).rankFor component = e.rank := by
    rw [Filter.rankFor, if_neg, he.rankFor_eq]
    intro hempty
    rw [List.isEmpty_iff.mp hempty] at hd
    cases hd
  obtain ⟨f, hf, hafter⟩ := exists_decides_verbose environment component
  obtain ⟨le, hle, hdle⟩ := he.exists_le hd hn
  -- The directive `e` decides without `-v` and `f` with it. Each is among the directives from which
  -- the other one was chosen, so they match as much and have the same target.
  have hthere := mem_directives_verbose.mpr
    (.inr ⟨he.mem, hnamed hle hdle⟩ : e = _ ∨ e ∈ directives ∧ e.target ≠ none)
  obtain ⟨lf, hlf, helf⟩ := hf.exists_le hthere hle
  have hfnamed := hnamed hlf (Nat.le_trans hdle helf)
  have hfmem : f ∈ directives := by
    obtain rfl | ⟨hmem, -⟩ := mem_directives_verbose.mp hf.mem
    · exact absurd rfl hfnamed
    · exact hmem
  obtain ⟨_, hle', hfle⟩ := he.exists_le hfmem hlf
  rw [hle] at hle'
  cases hle'
  obtain rfl : le = lf := Nat.le_antisymm helf hfle
  have htarget : e.target = f.target := Directive.target_eq_of_matchLength?_eq hle hlf (by omega)
  have heq : e = f :=
    List.inj_on_of_nodup_map (nodup_directives_ofText _) he.mem hfmem htarget
  rw [hafter, hbefore, heq]

end Verbose

/-! ## The log of a run

What comes of a run does not hang on the log. The environment goes into the filter only, and what
the filter lets through is part of what was logged.
-/

variable {w : Workspace} {arguments : List String} {o : Options} {t : Timestamp}

theorem apply_sublist (filter : Filter) (events : List Event) :
    (filter.apply events).Sublist events :=
  List.filter_sublist

/-- All that a program leaves behind apart from the log is the same in every environment, and all
logs are part of one. -/
theorem program_congr (w : Workspace) (arguments : List String) (t : Timestamp) :
    ∃ (w' : Workspace) (exit : Exit), ∀ environment, ∃ shown,
      shown.Sublist exit.events ∧
        w.program arguments environment t = (w', { exit with events := shown }) := by
  -- Arguments are read, and the module is profiled, before anything is shown.
  cases hargs : Options.ofArguments arguments with
  | error refusal =>
      refine ⟨w, refusal.exit, fun environment => ⟨refusal.exit.events, List.Sublist.refl _, ?_⟩⟩
      simp only [Workspace.program, hargs]
  | ok o =>
      let run := w.loggedRun o t
      cases hresult : run.value.result with
      | ok =>
          refine ⟨run.value.workspace,
            { status := 0, output := run.value.output, events := run.events, report := none },
            fun environment => ⟨_, apply_sublist (logFilter o.verbose environment) run.events, ?_⟩⟩
          simp only [Workspace.program, hargs, run, hresult]
      | error failure =>
          refine ⟨run.value.workspace,
            { status := 1, output := run.value.output, events := run.events,
              report := some failure.report },
            fun environment => ⟨_, apply_sublist (logFilter o.verbose environment) run.events, ?_⟩⟩
          simp only [Workspace.program, hargs, run, hresult]

theorem events_program (hargs : Options.ofArguments arguments = .ok o)
    (environment : Option String) :
    (w.program arguments environment t).2.events =
      (logFilter o.verbose environment).apply (w.loggedRun o t).events := by
  simp only [Workspace.program, hargs]
  split <;> rfl

/-- Warnings matter more than the events that are shown in any case. -/
theorem warningsAmong_select {level : Level} (h : Level.warn.rank ≤ level.rank)
    (events : List Event) : warningsAmong (level.select events) = warningsAmong events := by
  rw [warningsAmong, Level.select, List.filter_filter]
  apply List.filter_congr
  intro e _
  by_cases hwarn : e.level = .warn
  · simp [hwarn, h]
  · simp [hwarn]

theorem warnings_optionsEvents (o : Options) : warningsAmong o.events = [] := by
  rw [Options.events]
  -- Where the output goes is told in one of three ways, each of them for information.
  split <;> rfl

theorem warnings_check (w : Workspace) (o : Options) : warningsAmong (w.check o).events = [] := by
  rw [Workspace.check, Logged.events_bind]
  split
  · rfl
  · split
    · rfl
    · rw [Logged.events_bind, Logged.events_logAll, warningsAmong_append, warningsAmong_append,
        warnings_optionsEvents]
      rfl

theorem warnings_deliver (w : Workspace) (format : Format) (d : Delivery) :
    warningsAmong (w.deliver format d).events = [] := by
  unfold Workspace.deliver
  split
  · rfl
  · next path hpath =>
    have hsave : warningsAmong (w.saveText path d.text).events = [] := by
      rw [Workspace.saveText, Logged.events_bind]
      split <;> rfl
    simp only [Logged.events_bind, warningsAmong_append, hsave]
    split <;> rfl

theorem warnings_profileDeliver (p : Profile) (o : Options) (t : Timestamp) :
    warningsAmong (p.deliver o t).events = [] := by
  unfold Profile.deliver
  split
  · rfl
  · simp only [Logged.events_bind, warningsAmong_append]
    split <;> rfl

theorem warnings_profileEvents (p : Profile) : warningsAmong p.events = [] := by
  apply warningsAmong_eq_nil
  simp [Profile.events, or_imp, forall_and, Event.level]

theorem warnings_result (w : Workspace) (o : Options) (t : Timestamp) :
    warningsAmong (w.result o t).events = warningsAmong (w.profile o.modulePath).events := by
  have hgenerating : warningsAmong (Logged.log (.generating o.modulePath)).events = [] := rfl
  rw [Workspace.result, Logged.events_bind, Logged.events_bind, warningsAmong_append, hgenerating,
    List.nil_append, warningsAmong_append]
  split
  · exact List.append_nil _
  · rw [Logged.events_bind, warningsAmong_append, Logged.events_logAll, warnings_profileEvents,
      warnings_profileDeliver, List.append_nil, List.append_nil]

/-- Only the analysis warns. -/
theorem warnings_loggedRun (hcheck : (w.check o).value = .ok ()) :
    warningsAmong (w.loggedRun o t).events = warningsAmong (w.profile o.modulePath).events := by
  have hstarted : warningsAmong (Logged.log .started).events = [] := rfl
  have hrun : warningsAmong (w.run o t).events = warningsAmong (w.result o t).events := by
    rw [Workspace.run, Logged.events_bind, warningsAmong_append]
    split
    · exact List.append_nil _
    · rw [warnings_deliver, List.append_nil]
  have hchecked : warningsAmong (w.checkedRun o t).events = warningsAmong (w.run o t).events := by
    rw [Workspace.checkedRun, Logged.events_bind, warningsAmong_append, warnings_check, hcheck]
    rfl
  rw [Workspace.loggedRun, Logged.events_bind, Logged.events_bind, warningsAmong_append,
    warningsAmong_append, hstarted, List.nil_append, hchecked, hrun, warnings_result]
  split <;> exact List.append_nil _

/-- Where the environment is silent, a run shows each directory that could not be opened and each file
that could not be read, and warns of nothing else. -/
theorem warnings_program {inventory : Inventory} (hargs : Options.ofArguments arguments = .ok o)
    (hcheck : (w.check o).value = .ok ())
    (h : (w.takeInventory o.modulePath).value = .ok inventory) :
    warningsAmong (w.program arguments none t).2.events =
      inventory.warnings.map Warning.event ++
        (inventory.readme.toList ++ inventory.controllers ++ inventory.manifest.toList).filterMap
          w.skipped? := by
  rw [events_program hargs, apply_logFilter_none, warningsAmong_select, warnings_loggedRun hcheck,
    Workspace.warnings_profile h]
  split <;> decide

/-!
## Records

A message may quote a file or a path. What would control the terminal is left out of the record.
-/

/-- No record can control the terminal that shows the log. -/
theorem escape_not_mem_recordText (e : Event) : '\x1B' ∉ e.recordText.toList := by
  rw [Event.recordText, String.toList_ofList]
  exact Text.Terminal.not_mem_shown_escape _

/-- A message on one line and without control characters is written as it is. -/
theorem recordText_eq {e : Event} (hline : '\n' ∉ e.message.toList)
    (hplain : ∀ c ∈ e.message.toList, Text.Terminal.Mode.plain.shows c = true) :
    e.recordText = e.message ++ "\n" := by
  have hshown : Text.Terminal.shown (e.message.toList ++ ['\n']) = e.message.toList ++ ['\n'] := by
    apply Text.Terminal.shown_eq_self
    simpa [or_imp, forall_and] using ⟨hplain, rfl⟩
  rw [Event.recordText, Text.hanging_eq_self 4 hline, hshown]
  apply String.ext
  simp

end ModuleReadme
