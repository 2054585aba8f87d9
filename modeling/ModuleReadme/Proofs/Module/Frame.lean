import ModuleReadme.CommandLine.Run
import ModuleReadme.Proofs.Files.Growth
import ModuleReadme.Proofs.Module.Inventory

/-!
# What a run leaves behind

A run whose options are accepted has a profile of the module to go by, and changes nothing but the
file that it delivers its result to, for which directories are made (`runEffect_checkedRun`). A run
that fails makes such directories at most, and says nothing of a success.
-/

namespace ModuleReadme

open Readme Workspace

variable {w : Workspace} {o : Options} {t : Timestamp} {p : Profile}

/-!
## The steps of a run

A run checks its options, profiles the module, makes a text and delivers it. After the check only
the delivery can fail for what is in the file system, and the text can fail to be made for what is
in the profile.
-/

/-- The text that a run delivers for a profile. -/
def Options.textFor (o : Options) (t : Timestamp) (p : Profile) : Except Error String :=
  match o.format with
  | .markdown => .ok (document o.appearance t p)
  | .json => p.dump

/-- Where a run delivers its result. -/
def Options.destination? (o : Options) : Option Path :=
  match o.format with
  | .markdown => some o.readmePath
  | .json => o.outputPath

/-- Options that are accepted name a directory. -/
theorem exists_find_of_check (h : (w.check o).value = .ok ()) :
    ∃ entries, w.find o.modulePath = .ok (.directory entries) := by
  -- Otherwise the check would have failed.
  have hdirectory : w.isDirectory o.modulePath = true := by
    by_contra hnot
    rw [Workspace.check, Logged.value_bind] at h
    split at h
    · cases h
    · rw [Bool.not_eq_true] at hnot
      rw [if_pos (by simp [hnot])] at h
      cases h
  unfold isDirectory at hdirectory
  split at hdirectory
  · next s hfind =>
    cases s with
    | file => cases hdirectory
    | link => cases hdirectory
    | directory entries => exact ⟨entries, hfind⟩
  · cases hdirectory

/-- The module that accepted options name has a profile. -/
theorem exists_profile_of_check (h : (w.check o).value = .ok ()) :
    ∃ p, (w.profile o.modulePath).value = .ok p := by
  obtain ⟨entries, hfind⟩ := exists_find_of_check h
  obtain ⟨place, hleads⟩ := exists_leadsTo hfind
  exact ⟨_, hleads.value_profile⟩

/-- The result is made from the profile; only a path that is no text can keep it from being made. -/
theorem value_result (hp : (w.profile o.modulePath).value = .ok p) :
    (w.result o t).value =
      match o.textFor t p with
      | .ok text => .ok { text, destination := o.destination? }
      | .error error => .error (.failed error) := by
  rw [Options.textFor, Options.destination?]
  cases hformat : o.format with
  | markdown =>
      simp only [Workspace.result, Logged.value_bind, hp, Profile.deliver, hformat, render,
        Logged.value_pure]
  | json =>
      simp only [Workspace.result, Logged.value_bind, hp, Profile.deliver, hformat,
        Profile.serialize, Logged.value_pure]
      cases p.dump <;> rfl

/-- What a run comes to that has a profile to go by. -/
theorem value_checkedRun (hcheck : (w.check o).value = .ok ())
    (hp : (w.profile o.modulePath).value = .ok p) :
    (w.checkedRun o t).value =
      match o.textFor t p with
      | .error error => { workspace := w, output := "", result := .error (.failed error) }
      | .ok text =>
        match o.destination? with
        | none => { workspace := w, output := text ++ "\n", result := .ok () }
        | some path =>
          match w.save path text with
          | (w₁, .ok ()) =>
            { workspace := w₁, output := o.format.successMessage path, result := .ok () }
          | (w₁, .error error) =>
            { workspace := w₁, output := "", result := .error (.failed error) } := by
  simp only [checkedRun, Workspace.run, Logged.value_bind, hcheck, value_result hp]
  -- There is no text, nowhere to save it, or a file to be saved.
  cases o.textFor t p with
  | error error => rfl
  | ok text =>
      cases o.destination? with
      | none => simp only [Workspace.deliver, Logged.value_pure]
      | some path =>
          simp only [Workspace.deliver, saveText, Logged.value_bind]
          rcases w.save path text with ⟨w₁, error | ⟨⟩⟩ <;> rfl

/-- A run that succeeds has delivered its text. -/
theorem delivered_of_checkedRun (hcheck : (w.check o).value = .ok ())
    (hp : (w.profile o.modulePath).value = .ok p)
    (hrun : (w.checkedRun o t).value.result = .ok ()) :
    ∃ text, o.textFor t p = .ok text ∧
      match o.destination? with
      | some path => (w.checkedRun o t).value.output = o.format.successMessage path ∧
          ∃ place, w.SavesAt (w.checkedRun o t).value.workspace path text.toUTF8 place
      | none => (w.checkedRun o t).value.workspace = w ∧
          (w.checkedRun o t).value.output = text ++ "\n" := by
  rw [value_checkedRun hcheck hp] at hrun ⊢
  -- The cases are those of what a run comes to, of which only two succeed.
  cases htext : o.textFor t p with
  | error error =>
      rw [htext] at hrun
      cases hrun
  | ok text =>
      rw [htext] at hrun
      refine ⟨text, rfl, ?_⟩
      cases hdestination : o.destination? with
      | none => exact ⟨rfl, rfl⟩
      | some path =>
          rw [hdestination] at hrun
          rcases hsave : w.save path text with ⟨w₁, error | ⟨⟩⟩
          · simp only [hsave] at hrun
            cases hrun
          · simp only [hsave]
            exact ⟨trivial, savesAt_of_save hsave⟩

/-- A run that fails has made directories at most. -/
theorem grows_of_checkedRun (hcheck : (w.check o).value = .ok ())
    (hp : (w.profile o.modulePath).value = .ok p) {failure : Failure}
    (hrun : (w.checkedRun o t).value.result = .error failure) :
    (w.checkedRun o t).value.output = "" ∧ (∃ error, failure = .failed error) ∧
      match o.destination? with
      | some path => w.Grows (w.checkedRun o t).value.workspace path.directories
      | none => (w.checkedRun o t).value.workspace = w := by
  rw [value_checkedRun hcheck hp] at hrun ⊢
  -- It failed before anything was saved, or on saving.
  cases htext : o.textFor t p with
  | error error =>
      rw [htext] at hrun
      cases hrun
      refine ⟨rfl, ⟨error, rfl⟩, ?_⟩
      cases o.destination? with
      | none => rfl
      | some path => exact grows_refl w path.directories
  | ok text =>
      rw [htext] at hrun
      cases hdestination : o.destination? with
      | none =>
          rw [hdestination] at hrun
          cases hrun
      | some path =>
          rw [hdestination] at hrun
          rcases hsave : w.save path text with ⟨w₁, error | ⟨⟩⟩
          · simp only [hsave] at hrun ⊢
            cases hrun
            exact ⟨trivial, ⟨error, rfl⟩, grows_of_save hsave⟩
          · simp only [hsave] at hrun
            cases hrun

/-!
## The effect of a run

A README and a result in JSON are delivered in the same ways. They differ in the text and in where
it goes if no path is given.
-/

/-- What a run with the profile `p` of its module leaves behind. -/
structure RunEffect (w : Workspace) (o : Options) (t : Timestamp) (p : Profile) (r : Outcome) :
    Prop where
  /-- The README is the one of the module as it was before. -/
  markdown : o.format = .markdown → r.result = .ok () →
    r.output = Format.markdown.successMessage o.readmePath ∧
      ∃ place, w.SavesAt r.workspace o.readmePath (document o.appearance t p).toUTF8 place
  json : ∀ path, o.format = .json → o.outputPath = some path → r.result = .ok () →
    r.output = Format.json.successMessage path ∧
      ∃ text place, p.dump = .ok text ∧ w.SavesAt r.workspace path text.toUTF8 place
  printed : o.format = .json → o.outputPath = none → r.result = .ok () →
    r.workspace = w ∧ ∃ text, p.dump = .ok text ∧ r.output = text ++ "\n"
  /-- A run that fails fails after the module was profiled, and makes directories at most. -/
  failed : ∀ failure, r.result = .error failure → r.output = "" ∧
    (∃ error, failure = .failed error) ∧
    match o.destination? with
    | some path => w.Grows r.workspace path.directories
    | none => r.workspace = w
  /-- Directories are made under the names with which the path of the result begins. -/
  named : ∀ path, o.destination? = some path → ∀ d ∈ path.directories, d.bytes <+: path.bytes

/-- A run with options that are accepted has a profile of the module, and leaves nothing behind but
its result and the directories on the way to it. With options that are not accepted it changes
nothing. -/
theorem runEffect_checkedRun (w : Workspace) (o : Options) (t : Timestamp) :
    (∀ failure, (w.check o).value = .error failure →
      (w.checkedRun o t).value = { workspace := w, output := "", result := .error failure }) ∧
    ((w.check o).value = .ok () → ∃ p, (w.profile o.modulePath).value = .ok p ∧
      RunEffect w o t p (w.checkedRun o t).value) := by
  constructor
  · intro failure h
    simp only [checkedRun, Logged.value_bind, h, Logged.value_pure]
  · intro h
    -- From here on the run has a profile, and each field is about one way to deliver.
    obtain ⟨p, hp⟩ := exists_profile_of_check h
    refine ⟨p, hp, ?_⟩
    constructor
    · intro hformat hrun
      obtain ⟨text, htext, hdelivered⟩ := delivered_of_checkedRun h hp hrun
      rw [Options.textFor, hformat, Except.ok.injEq] at htext
      rw [Options.destination?, hformat] at hdelivered
      rw [htext]
      exact hdelivered
    · intro path hformat hpath hrun
      obtain ⟨text, htext, hdelivered⟩ := delivered_of_checkedRun h hp hrun
      rw [Options.textFor, hformat] at htext
      rw [Options.destination?, hformat] at hdelivered
      simp only [hpath] at hdelivered
      obtain ⟨houtput, place, hsaves⟩ := hdelivered
      exact ⟨houtput, text, place, htext, hsaves⟩
    · intro hformat hpath hrun
      obtain ⟨text, htext, hdelivered⟩ := delivered_of_checkedRun h hp hrun
      rw [Options.textFor, hformat] at htext
      rw [Options.destination?, hformat] at hdelivered
      simp only [hpath] at hdelivered
      exact ⟨hdelivered.1, text, htext, hdelivered.2⟩
    · intro failure hrun
      exact grows_of_checkedRun h hp hrun
    · intro path _ d hd
      exact Path.isPrefix_of_mem_directories hd

end ModuleReadme
