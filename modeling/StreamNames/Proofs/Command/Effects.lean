import StreamNames.Proofs.Command.Check

/-!
# What a run leaves behind

A run of the program writes at most one file, that of the settings where it is missing, and
it does so before anything else. All that comes after the settings are loaded only looks at
files. A run that fails prints nothing, except that the check prints its entries first. This
holds wherever paths lead and wherever files can be made.

- `Surroundings`: what a run finds about it and does not change.
- `Directory.LeavesFiles`: steps that only look at files, closed under sequence.
- `Command.quiet_of_failure`: what a command puts out that fails.
- `Ran`: all that can come of a run. Everything else is read off it (`runs_iff_ran`).
- `KeepsFiles`, `FailsQuietly`: what becomes of files, and what is printed by a failure.
- `runProgram_keepsFiles_failsQuietly`: both hold of every run.
-/

namespace StreamNames

/-! ## Steps that only look -/

namespace Directory

variable {α β : Type}

/-- A step leaves the files as they are. -/
def LeavesFiles (step : StateM Directory α) : Prop := ∀ d, (step.run d).2 = d

theorem leavesFiles_pure (a : α) : LeavesFiles (pure a) := fun _ => rfl

theorem LeavesFiles.bind {step : StateM Directory α} {next : α → StateM Directory β}
    (h : LeavesFiles step) (hnext : ∀ a, LeavesFiles (next a)) : LeavesFiles (step >>= next) := by
  intro d
  show ((next (step.run d).1).run (step.run d).2).2 = d
  rw [hnext, h]

theorem leavesFiles_readContents (paths : Paths) (input : Option String) (path : String) :
    LeavesFiles (readContents (accessBy paths input) path) := by
  unfold readContents
  split
  · refine .bind (fun _ => rfl) fun contents => ?_
    cases contents <;> exact leavesFiles_pure _
  · refine .bind (fun _ => rfl) fun entry => ?_
    cases entry <;> exact leavesFiles_pure _

theorem leavesFiles_onFeed (paths : Paths) (input : Option String) (feed : String)
    (command : List Stream → Result) :
    LeavesFiles (Command.onFeed (accessBy paths input) feed command) := by
  have hread : LeavesFiles (readFeed (accessBy paths input) feed) := by
    refine .bind (leavesFiles_readContents paths input feed) fun contents => ?_
    cases contents <;> exact leavesFiles_pure _
  refine .bind hread fun streams => ?_
  cases streams <;> exact leavesFiles_pure _

/-- **No command changes files once the settings are loaded.** -/
theorem leavesFiles_runWith (paths : Paths) (input : Option String) (s : Settings) (c : Command) :
    LeavesFiles (c.runWith (accessBy paths input) s) := by
  cases c with
  | validate pattern => exact leavesFiles_pure _
  | translate pattern target => exact leavesFiles_pure _
  | check => exact leavesFiles_pure _
  | highlight feed skip => exact leavesFiles_onFeed paths input feed _
  | stats feed skip compare => exact leavesFiles_onFeed paths input feed _

end Directory

/-! ## Commands that fail -/

section

variable {σ : Type} {access : Access (StateM σ)} {environment : Option String}
  {before after : σ}

/-- Run on a feed, a command puts out its result, or fails without one. -/
theorem onFeed_cases {feed : String} {command : List Stream → Result} {result : Result}
    (h : (Command.onFeed access feed command).run before = (result, after)) :
    (∃ streams, result = command streams) ∨ result.output = "" := by
  unfold Command.onFeed at h
  rw [StateT.run_bind] at h
  cases hread : (readFeed access feed).run before with
  | mk streams later =>
    rw [hread] at h
    cases streams with
    | ok streams => exact .inl ⟨streams, (Prod.mk.inj h).1.symm⟩
    | error failure =>
      obtain ⟨rfl, -⟩ := Prod.mk.inj h
      exact .inr rfl

/-- **A command that fails puts out nothing**, unless it is the check. -/
theorem Command.quiet_of_failure {c : Command} {s : Settings} {result : Result}
    (h : (c.runWith access s).run before = (result, after)) (hfailure : result.failure ≠ none) :
    result.output = "" ∨ c = .check ∧ s.fields.hasErrors = true := by
  -- validating and respelling do not fail, and reports on feeds fail only without a feed
  cases c with
  | validate pattern =>
    obtain ⟨rfl, -⟩ := Prod.mk.inj h
    exact absurd rfl hfailure
  | translate pattern target =>
    obtain ⟨rfl, -⟩ := Prod.mk.inj h
    exact absurd rfl hfailure
  | check =>
    obtain ⟨rfl, -⟩ := Prod.mk.inj h
    exact .inr ⟨rfl, (ite_ne_right_iff.mp hfailure).1⟩
  | highlight feed skip =>
    rcases onFeed_cases h with ⟨streams, rfl⟩ | hempty
    · exact absurd rfl hfailure
    · exact .inl hempty
  | stats feed skip compare =>
    rcases onFeed_cases h with ⟨streams, rfl⟩ | hempty
    · exact absurd rfl hfailure
    · exact .inl hempty

end

/-! ## What can come of a run -/

/-- A command for which settings are loaded. -/
def Command.NeedsSettings (c : Command) : Prop :=
  ∀ pattern target, c ≠ .translate pattern target

/-- The file of settings: the one given, else the one that the environment names. -/
def Invocation.settingsFile (i : Invocation) (environment : Option String) : String :=
  (i.settingsPath.or environment).getD defaultPath

/-- What a run finds about it and does not change: where paths lead and where files can be
made, its input, and the file of settings that the environment names. -/
structure Surroundings where
  paths : Paths
  input : Option String
  environment : Option String

/-- Access to files from where a run is. -/
def Surroundings.access (w : Surroundings) : Access (StateM Directory) :=
  Directory.accessBy w.paths w.input

/-- The file of settings that a run loads. -/
def Surroundings.settingsFile (w : Surroundings) (i : Invocation) : String :=
  i.settingsFile w.environment

/-- What can come of a run, and the files afterwards. -/
inductive Ran (w : Surroundings) (arguments : List String) (before : Directory) :
    Outcome → Directory → Prop where
  | detour {detour : Command.Detour} (parse : Invocation.parse arguments = .error detour) :
      Ran w arguments before (.ofDetour detour) before
  | translate {given : Option String} {pattern : String} {target : Dialect}
      (parse : Invocation.parse arguments = .ok ⟨given, .translate pattern target⟩) :
      Ran w arguments before (.ofResult (translateResult target pattern)) before
  | noSettings {i : Invocation} {e : Settings.FileError} {after : Directory}
      (parse : Invocation.parse arguments = .ok i) (needs : i.command.NeedsSettings)
      (load : (Settings.fromFile w.access (w.settingsFile i)).run before = (.error e, after)) :
      Ran w arguments before (.ofResult (.failed (.settings (w.settingsFile i)))) after
  | withSettings {i : Invocation} {settings : Settings} {result : Result} {after : Directory}
      (parse : Invocation.parse arguments = .ok i) (needs : i.command.NeedsSettings)
      (load : SettingsLoaded w.access w.environment i.settingsPath before settings after)
      (run : (i.command.runWith w.access settings).run after = (result, after)) :
      Ran w arguments before (.ofResult result) after

/-- A run has an outcome and leaves files. -/
def Runs (w : Surroundings) (arguments : List String) (before : Directory) (outcome : Outcome)
    (after : Directory) : Prop :=
  (runProgram w.access w.environment arguments).run before = (outcome, after)

section

variable {w : Surroundings} {arguments : List String} {before after : Directory}
  {outcome : Outcome}

/-- Where no settings can be loaded, a command fails. -/
theorem Invocation.run_of_error {i : Invocation} {e : Settings.FileError}
    (hneeds : i.command.NeedsSettings)
    (hload : (Settings.fromFile w.access (w.settingsFile i)).run before = (.error e, after)) :
    (i.run w.access w.environment).run before =
      (.failed (.settings (w.settingsFile i)), after) := by
  unfold run
  split
  · next pattern target heq => exact absurd heq (hneeds pattern target)
  · unfold Surroundings.settingsFile settingsFile at hload
    rw [StateT.run_bind, hload]
    rfl

theorem Ran.runs (h : Ran w arguments before outcome after) :
    Runs w arguments before outcome after := by
  cases h with
  | detour hparse =>
    unfold Runs runProgram
    rw [hparse]
    rfl
  | translate hparse => exact runProgram_of_run hparse rfl
  | noSettings hparse hneeds hload =>
    exact runProgram_of_run hparse (Invocation.run_of_error hneeds hload)
  | withSettings hparse hneeds hload hrun =>
    exact runProgram_of_run hparse ((Invocation.run_of_load hload hneeds).trans hrun)

/-- **Every run is one of these.** -/
theorem exists_ran (w : Surroundings) (arguments : List String) (before : Directory) :
    ∃ outcome after, Ran w arguments before outcome after := by
  cases hparse : Invocation.parse arguments with
  | error detour => exact ⟨_, _, .detour hparse⟩
  | ok i =>
    by_cases hneeds : i.command.NeedsSettings
    · cases hload : (Settings.fromFile w.access (w.settingsFile i)).run before with
      | mk loaded after =>
        cases loaded with
        | error e => exact ⟨_, _, .noSettings hparse hneeds hload⟩
        | ok settings =>
          -- what is done with the settings leaves the files as they are
          have hleaves := Directory.leavesFiles_runWith w.paths w.input settings i.command after
          exact ⟨_, _, .withSettings hparse hneeds hload (Prod.ext rfl hleaves)⟩
    · -- without need of settings it can only be a respelling
      obtain ⟨given, command⟩ := i
      simp only [Command.NeedsSettings, not_forall, not_not] at hneeds
      obtain ⟨pattern, target, rfl⟩ := hneeds
      exact ⟨_, _, .translate hparse⟩

theorem runs_iff_ran : Runs w arguments before outcome after ↔
    Ran w arguments before outcome after := by
  refine ⟨fun h => ?_, Ran.runs⟩
  obtain ⟨outcome', after', hran⟩ := exists_ran w arguments before
  obtain ⟨rfl, rfl⟩ := Prod.mk.inj (h.symm.trans hran.runs)
  exact hran

/-- A run can be made again and leaves the files as they are then. -/
theorem Ran.again (h : Ran w arguments before outcome after) :
    Ran w arguments after outcome after := by
  cases h with
  | detour hparse => exact .detour hparse
  | translate hparse => exact .translate hparse
  | noSettings hparse hneeds hload =>
    exact .noSettings hparse hneeds (Directory.run_fromFile_again hload)
  | withSettings hparse hneeds hload hrun =>
    exact .withSettings hparse hneeds (Directory.run_fromFile_again hload) hrun

/-- A run leaves the files that loading the settings leaves. -/
theorem Ran.loading {i : Invocation} (h : Ran w arguments before outcome after)
    (hparse : Invocation.parse arguments = .ok i) (hneeds : i.command.NeedsSettings) :
    ∃ loaded, (Settings.fromFile w.access (w.settingsFile i)).run before = (loaded, after) ∧
      Directory.Loading w.paths (w.settingsFile i) before loaded after := by
  obtain ⟨loaded, after', hload, hloading⟩ :=
    Directory.loading_fromFile w.paths w.input (w.settingsFile i) before
  -- loading has one result, so what it leaves is what the run left
  suffices hsame : after' = after by
    subst hsame
    exact ⟨loaded, hload, hloading⟩
  cases h with
  | detour hparse' => cases hparse.symm.trans hparse'
  | translate hparse' =>
    cases hparse.symm.trans hparse'
    exact absurd rfl (hneeds _ _)
  | noSettings hparse' _ hload' =>
    cases hparse.symm.trans hparse'
    exact (Prod.mk.inj (hload.symm.trans hload')).2
  | withSettings hparse' _ hload' _ =>
    cases hparse.symm.trans hparse'
    exact (Prod.mk.inj (hload.symm.trans hload')).2

/-- A run for which no settings are loaded leaves the files as they are. -/
theorem Ran.eq_or_needsSettings (h : Ran w arguments before outcome after) :
    after = before ∨ ∃ i, Invocation.parse arguments = .ok i ∧ i.command.NeedsSettings := by
  cases h with
  | detour => exact .inl rfl
  | translate => exact .inl rfl
  | noSettings hparse hneeds => exact .inr ⟨_, hparse, hneeds⟩
  | withSettings hparse hneeds => exact .inr ⟨_, hparse, hneeds⟩

end

/-! ## What becomes of files -/

/-- What a run does to files. -/
structure KeepsFiles (w : Surroundings) (arguments : List String) (before : Directory)
    (outcome : Outcome) (after : Directory) : Prop where
  /-- No file is changed. -/
  kept : ∀ name contents, before.files.lookup name = some contents →
    after.files.lookup name = some contents
  /-- A file that appears is that of the settings, with the defaults. -/
  made : ∀ name contents, before.files.lookup name = none →
    after.files.lookup name = some contents →
    contents = some Settings.defaultDocument ∧
      ∃ i, Invocation.parse arguments = .ok i ∧ i.command.NeedsSettings ∧
        w.paths.placeOf (w.settingsFile i) = .file name
  /-- From then on the same settings are loaded; they are the defaults if the file was made. -/
  reloaded : ∀ i, Invocation.parse arguments = .ok i → i.command.NeedsSettings →
    ∃ loaded, (Settings.fromFile w.access (w.settingsFile i)).run before = (loaded, after) ∧
      (Settings.fromFile w.access (w.settingsFile i)).run after = (loaded, after) ∧
      (after ≠ before → loaded = .ok .default)
  /-- The same run comes to the same then and leaves the files as they are. -/
  again : Runs w arguments after outcome after

section

variable {w : Surroundings} {arguments : List String} {before after : Directory}
  {outcome : Outcome}

/-- **What a run does to files** is what loading the settings does. -/
theorem Ran.keepsFiles (h : Ran w arguments before outcome after) :
    KeepsFiles w arguments before outcome after := by
  -- only loading the settings can change files, so each part is read off `Loading`
  refine ⟨?kept, ?made, ?reloaded, h.again.runs⟩
  case kept =>
    intro name contents hname
    rcases h.eq_or_needsSettings with rfl | ⟨i, hparse, hneeds⟩
    · exact hname
    · obtain ⟨loaded, -, hloading⟩ := h.loading hparse hneeds
      exact hloading.lookup_eq_some hname
  case made =>
    intro name contents hbefore hafter
    rcases h.eq_or_needsSettings with rfl | ⟨i, hparse, hneeds⟩
    · exact absurd (hbefore.symm.trans hafter) (Option.some_ne_none contents).symm
    · obtain ⟨loaded, -, hloading⟩ := h.loading hparse hneeds
      obtain ⟨hcontents, hplace⟩ := hloading.eq_made hbefore hafter
      exact ⟨hcontents, i, hparse, hneeds, hplace⟩
  case reloaded =>
    intro i hparse hneeds
    obtain ⟨loaded, hload, hloading⟩ := h.loading hparse hneeds
    refine ⟨loaded, hload, Directory.run_fromFile_again hload, fun hchanged => ?_⟩
    rcases hloading.eq_or_made with hsame | ⟨-, -, -, hdefault, -⟩
    · exact absurd hsame hchanged
    · exact hdefault

end

/-! ## How runs fail -/

/-- A run is that of the check with settings that are loaded and have a pattern that is
refused. -/
def CheckRefuses (w : Surroundings) (arguments : List String) (before after : Directory)
    (settings : Settings) : Prop :=
  ∃ given, Invocation.parse arguments = .ok ⟨given, .check⟩ ∧
    SettingsLoaded w.access w.environment given before settings after ∧
    ∃ p ∈ settings.patterns.allPatterns, p.isRejected settings.engine.limits = true

/-- What a run prints that fails. -/
structure FailsQuietly (w : Surroundings) (arguments : List String) (before : Directory)
    (outcome : Outcome) (after : Directory) : Prop where
  /-- Nothing, unless the check refuses a pattern. -/
  quiet : outcome.code ≠ 0 → outcome.output = "" ∨
    ∃ settings, CheckRefuses w arguments before after settings
  /-- The check that refuses a pattern has printed the entries of all. -/
  report : ∀ settings, CheckRefuses w arguments before after settings →
    outcome.code = 1 ∧ outcome.output = (Json.array settings.entries).pretty ++ "\n" ∧
      settings.Checked settings.entries outcome.code
  /-- Where the file of settings cannot be used, every command fails that needs it. -/
  unusable : ∀ i, Invocation.parse arguments = .ok i → i.command.NeedsSettings →
    before.Unusable w.paths (w.settingsFile i) →
    outcome = ⟨1, "", some ("Error: " ++ (Failure.settings (w.settingsFile i)).message)⟩ ∧
      after = before
  /-- Respelling a pattern reaches no file and does not fail. -/
  translate : ∀ given pattern target,
    Invocation.parse arguments = .ok ⟨given, .translate pattern target⟩ →
    ∀ {m : Type → Type} [Monad m] [LawfulMonad m] (access : Access m) (environment : Option String),
      runProgram access environment arguments =
        pure ⟨0, (translateResult target pattern).output, none⟩

section

variable {w : Surroundings} {arguments : List String} {before after : Directory}
  {outcome : Outcome}

theorem output_ofDetour {detour : Command.Detour}
    (h : (Outcome.ofDetour detour).code ≠ 0) : (Outcome.ofDetour detour).output = "" := by
  cases detour with
  | misuse => rfl
  | showHelp topic => exact absurd rfl h
  | showVersion => exact absurd rfl h

theorem failure_ne_none_of_code {r : Result} (h : (Outcome.ofResult r).code ≠ 0) :
    r.failure ≠ none := by
  intro hnone
  unfold Outcome.ofResult at h
  rw [hnone] at h
  exact h rfl

/-- **How a run fails.** -/
theorem Ran.failsQuietly (h : Ran w arguments before outcome after) :
    FailsQuietly w arguments before outcome after := by
  refine ⟨fun hcode => ?quiet, fun settings hrefuses => ?report, ?unusable, ?translate⟩
  case quiet =>
    cases h with
    | detour => exact .inl (output_ofDetour hcode)
    | translate => exact absurd rfl hcode
    | noSettings => exact .inl rfl
    | @withSettings i settings result _ hparse hneeds hload hrun =>
      rw [output_ofResult]
      -- of the commands only the check puts something out and fails
      rcases Command.quiet_of_failure hrun (failure_ne_none_of_code hcode) with
        hempty | ⟨hcheck, herrors⟩
      · exact .inl hempty
      · obtain ⟨given, command⟩ := i
        obtain rfl : command = .check := hcheck
        exact .inr ⟨settings, given, hparse, hload, Settings.exists_showsRefusal_iff.mp
          (Settings.hasErrors_fields_iff.mp herrors)⟩
  case report =>
    obtain ⟨given, hparse, hload, hrejected⟩ := hrefuses
    have hchecked := settings.checked_entries
    have hrun : ((⟨given, .check⟩ : Invocation).run w.access w.environment).run before =
        (settings.checkResult, after) :=
      Invocation.run_of_load hload fun _ _ => Command.noConfusion
    obtain ⟨rfl, -⟩ := Prod.mk.inj (h.runs.symm.trans (runProgram_of_run hparse hrun))
    exact ⟨hchecked.code_one.mpr (Settings.exists_showsRefusal_iff.mpr hrejected),
      output_ofResult _, hchecked⟩
  case unusable =>
    intro i hparse hneeds hunusable
    obtain ⟨e, hload⟩ := Directory.unusable_iff.mp hunusable
    exact Prod.mk.inj (h.runs.symm.trans
      (runProgram_of_run hparse (Invocation.run_of_error hneeds hload)))
  case translate =>
    intro given pattern target hparse m _ _ access environment
    unfold runProgram
    rw [hparse]
    exact pure_bind _ _

/-- **Runs keep files and fail quietly**, whatever the arguments, the files and where they
are, the input and the environment. -/
theorem runProgram_keepsFiles_failsQuietly (w : Surroundings) (arguments : List String)
    (before : Directory) :
    ∃ outcome after, Runs w arguments before outcome after ∧
      KeepsFiles w arguments before outcome after ∧
      FailsQuietly w arguments before outcome after := by
  obtain ⟨outcome, after, hran⟩ := exists_ran w arguments before
  exact ⟨outcome, after, hran.runs, hran.keepsFiles, hran.failsQuietly⟩

end

end StreamNames
