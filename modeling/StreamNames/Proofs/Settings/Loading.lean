import StreamNames.Proofs.Settings.Defaults
import StreamNames.Proofs.Settings.Overlay
import StreamNames.Settings.File

/-!
# Loading settings from files

Settings are loaded from a file. If it is missing it is made, unless the system does not let
it be made there, and no other file is touched. Loaded again, the settings are the same. All
of this holds whatever the system makes of paths.

- `Directory.run_fromFile`: what loading settings does, step by step.
- `Directory.Loading`: all that can come of it, and what becomes of the files. Everything
  else is read off it (`loading_fromFile`).
- `Directory.run_fromFile_again`: what loading a second time yields.
- `Directory.unusable_iff`: the files from which no settings can be loaded.
-/

namespace StreamNames

namespace Directory

variable {paths : Paths} {input : Option String} {d after : Directory} {path : String}

/-! ## Looking for a file, and making it -/

theorem add?_eq_some_iff {contents : String} {more : Directory} :
    d.add? paths path contents = some more ↔ ∃ name, paths.placeOf path = .file name ∧
      paths.admits name ∧ more = ⟨d.files ++ [(name, some contents)]⟩ := by
  unfold add?
  cases paths.placeOf path with
  | file name => simp [@eq_comm _ more]
  | unreadable => simp
  | nowhere => simp

theorem add?_eq_none_iff {contents : String} : d.add? paths path contents = none ↔
    ∀ name, paths.placeOf path = .file name → paths.admits name = false := by
  unfold add?
  cases paths.placeOf path with
  | file name => simp
  | unreadable => simp
  | nowhere => simp

theorem lookup_eq_none_of_absent {name : String} (hplace : paths.placeOf path = .file name)
    (h : d.entry paths path = .absent) : d.files.lookup name = none := by
  unfold entry at h
  rw [hplace] at h
  dsimp only at h
  split at h
  · cases h
  · cases h
  · assumption

/-- A file that is made is found from then on. -/
theorem entry_of_added {name : String} (hplace : paths.placeOf path = .file name)
    (hmissing : d.files.lookup name = none) (contents : String) :
    (⟨d.files ++ [(name, some contents)]⟩ : Directory).entry paths path = .text contents := by
  have hlookup : (d.files ++ [(name, some contents)]).lookup name = some (some contents) := by
    rw [List.lookup_append, hmissing, Option.none_or, List.lookup_cons_self]
  rw [entry, hplace]
  simp only [hlookup]

theorem run_create {contents : String} :
    ((accessBy paths input).create path contents).run d =
      match d.add? paths path contents with
      | some more => (true, more)
      | none => (false, d) := by
  show (StateT.run (match d.add? paths path contents with
    | some more => do
      set more
      return true
    | none => return false) d) = _
  cases d.add? paths path contents <;> rfl

/-- What loading settings does: only where nothing is found a file is made. -/
theorem run_fromFile (paths : Paths) (input : Option String) (path : String) (d : Directory) :
    (Settings.fromFile (accessBy paths input) path).run d =
      match d.entry paths path with
      | .text document => ((Settings.load document).mapError .load, d)
      | .notText => (.error .notText, d)
      | .notFile => (.error .notFile, d)
      | .absent =>
        match d.add? paths path Settings.defaultDocument with
        | some more => (.ok .default, more)
        | none => (.error .notCreated, d) := by
  have hlook : ((accessBy paths input).look path).run d = (d.entry paths path, d) := rfl
  rw [Settings.fromFile, StateT.run_bind, hlook]
  cases d.entry paths path with
  | text document => rfl
  | notText => rfl
  | notFile => rfl
  | absent =>
    -- what is left is to make the file
    show StateT.run ((accessBy paths input).create path Settings.defaultDocument >>= fun created =>
      if created then return Except.ok Settings.default
      else return Except.error Settings.FileError.notCreated) d = _
    rw [StateT.run_bind, run_create]
    cases d.add? paths path Settings.defaultDocument <;> rfl

theorem run_fromFile_of_text {document : String} (h : d.entry paths path = .text document) :
    (Settings.fromFile (accessBy paths input) path).run d =
      ((Settings.load document).mapError .load, d) := by
  rw [run_fromFile, h]

/-! ## What can come of it -/

/-- What can come of loading settings from a file, and the files afterwards. -/
inductive Loading (paths : Paths) (path : String) (d : Directory) :
    Except Settings.FileError Settings → Directory → Prop where
  | read {document : String} (entry : d.entry paths path = .text document) :
      Loading paths path d ((Settings.load document).mapError .load) d
  | notText (entry : d.entry paths path = .notText) : Loading paths path d (.error .notText) d
  | notFile (entry : d.entry paths path = .notFile) : Loading paths path d (.error .notFile) d
  /-- There is no file, and none can be made. -/
  | refused (entry : d.entry paths path = .absent)
      (refused : ∀ name, paths.placeOf path = .file name → paths.admits name = false) :
      Loading paths path d (.error .notCreated) d
  /-- There is no file, and it is made. -/
  | made {name : String} (place : paths.placeOf path = .file name) (admits : paths.admits name)
      (missing : d.files.lookup name = none) :
      Loading paths path d (.ok .default) ⟨d.files ++ [(name, some Settings.defaultDocument)]⟩

/-- **All that can come of loading settings.** -/
theorem loading_fromFile (paths : Paths) (input : Option String) (path : String) (d : Directory) :
    ∃ loaded after, (Settings.fromFile (accessBy paths input) path).run d = (loaded, after) ∧
      Loading paths path d loaded after := by
  rw [run_fromFile]
  cases hentry : d.entry paths path with
  | text document => exact ⟨_, d, rfl, .read hentry⟩
  | notText => exact ⟨_, d, rfl, .notText hentry⟩
  | notFile => exact ⟨_, d, rfl, .notFile hentry⟩
  | absent =>
    cases hadd : d.add? paths path Settings.defaultDocument with
    | some more =>
      obtain ⟨name, hplace, hadmits, rfl⟩ := add?_eq_some_iff.mp hadd
      exact ⟨_, _, rfl, .made hplace hadmits (lookup_eq_none_of_absent hplace hentry)⟩
    | none => exact ⟨_, d, rfl, .refused hentry (add?_eq_none_iff.mp hadd)⟩

/-- Loading leaves the files as they are, or it makes the missing file and the settings are
the defaults. -/
theorem Loading.eq_or_made {loaded : Except Settings.FileError Settings}
    (h : Loading paths path d loaded after) :
    after = d ∨ ∃ name, paths.placeOf path = .file name ∧ d.files.lookup name = none ∧
      loaded = .ok .default ∧ after = ⟨d.files ++ [(name, some Settings.defaultDocument)]⟩ := by
  cases h with
  | read => exact .inl rfl
  | notText => exact .inl rfl
  | notFile => exact .inl rfl
  | refused => exact .inl rfl
  | made hplace _ hmissing => exact .inr ⟨_, hplace, hmissing, rfl, rfl⟩

/-- **Settings that are loaded again are the same**, and no file is made any more. -/
theorem run_fromFile_again {loaded : Except Settings.FileError Settings}
    (h : (Settings.fromFile (accessBy paths input) path).run d = (loaded, after)) :
    (Settings.fromFile (accessBy paths input) path).run after = (loaded, after) := by
  obtain ⟨loaded', after', hrun, hloading⟩ := loading_fromFile paths input path d
  obtain ⟨rfl, rfl⟩ := Prod.mk.inj (h.symm.trans hrun)
  rcases hloading.eq_or_made with rfl | ⟨name, hplace, hmissing, rfl, rfl⟩
  · exact h
  · -- what was made is found, and spells out the defaults
    have hentry := entry_of_added hplace hmissing Settings.defaultDocument
    rw [run_fromFile_of_text hentry, Settings.load_defaultDocument]
    rfl

/-- Settings that are missing are made in another directory, which may be found by several
paths, if files can be made there. -/
example : (Settings.fromFile (accessBy (.among [([""], false), (["", "conf"], true)]) input)
    "/conf/../conf/a.toml").run ⟨[]⟩ =
      (.ok .default, ⟨[("/conf/a.toml", some Settings.defaultDocument)]⟩) := by
  have hentry : entry (.among [([""], false), (["", "conf"], true)]) ⟨[]⟩ "/conf/../conf/a.toml" =
      .absent := by decide +kernel
  have hadd : add? (.among [([""], false), (["", "conf"], true)]) ⟨[]⟩ "/conf/../conf/a.toml"
      Settings.defaultDocument = some ⟨[("/conf/a.toml", some Settings.defaultDocument)]⟩ :=
    add?_eq_some_iff.mpr ⟨"/conf/a.toml", by decide +kernel, by decide +kernel, rfl⟩
  rw [run_fromFile, hentry]
  simp only [hadd]

/-- Loading keeps all files. -/
theorem Loading.lookup_eq_some {loaded : Except Settings.FileError Settings}
    (h : Loading paths path d loaded after) {name : String} {contents : Option String}
    (hname : d.files.lookup name = some contents) : after.files.lookup name = some contents := by
  rcases h.eq_or_made with rfl | ⟨made, -, -, -, rfl⟩
  · exact hname
  · rw [List.lookup_append, hname, Option.some_or]

/-- A file that appears is the one that was looked for, with the defaults. -/
theorem Loading.eq_made {loaded : Except Settings.FileError Settings}
    (h : Loading paths path d loaded after) {name : String} {contents : Option String}
    (hbefore : d.files.lookup name = none) (hafter : after.files.lookup name = some contents) :
    contents = some Settings.defaultDocument ∧ paths.placeOf path = .file name := by
  rcases h.eq_or_made with rfl | ⟨made, hplace, -, -, rfl⟩
  · exact absurd (hbefore.symm.trans hafter) (Option.some_ne_none _).symm
  · rw [List.lookup_append, hbefore, Option.none_or] at hafter
    by_cases hname : name = made
    · subst hname
      rw [List.lookup_cons_self] at hafter
      exact ⟨(Option.some.inj hafter).symm, hplace⟩
    · rw [List.lookup_cons, beq_eq_false_iff_ne.mpr hname] at hafter
      cases hafter

/-! ## Files that cannot be used -/

/-- A file from which no settings can be loaded: it is no text, or no document that gives
settings, or it sets a limit to zero, or it is missing and cannot be made. -/
inductive Unusable (paths : Paths) (d : Directory) (path : String) : Prop where
  | notText (entry : d.entry paths path = .notText)
  | notFile (entry : d.entry paths path = .notFile)
  | malformed {document : String} (entry : d.entry paths path = .text document)
      (malformed : (Toml.parse document).bind Settings.ofToml? = none)
  | zeroLimit {document : String} {s : Settings} (entry : d.entry paths path = .text document)
      (given : (Toml.parse document).bind Settings.ofToml? = some s)
      (zero : s.engine.maxComplexity = some 0 ∨ s.engine.maxRepetition = some 0)
  | refused (entry : d.entry paths path = .absent)
      (refused : ∀ name, paths.placeOf path = .file name → paths.admits name = false)

/-- A document from which no settings are loaded gives none, or it sets a limit to zero. -/
theorem exists_load_eq_error_iff {document : String} :
    (∃ e, Settings.load document = .error e) ↔
      (Toml.parse document).bind Settings.ofToml? = none ∨
        ∃ s, (Toml.parse document).bind Settings.ofToml? = some s ∧ s.LimitsToZero := by
  -- a document is refused as it is read, or for what it says
  cases hgiven : (Toml.parse document).bind Settings.ofToml? with
  | none =>
    refine iff_of_true ⟨.malformed, ?_⟩ (.inl rfl)
    unfold Settings.load
    rw [hgiven]
  | some s =>
    rcases Settings.Decodes.load_eq hgiven with ⟨hzero, limit, hload⟩ | ⟨hzero, hload⟩
    · exact iff_of_true ⟨_, hload⟩ (.inr ⟨s, rfl, hzero⟩)
    · refine iff_of_false ?_ ?_
      · rintro ⟨e, herror⟩
        cases hload.symm.trans herror
      · rintro (hnone | ⟨s', hs', hzero'⟩)
        · cases hnone
        · cases hs'
          exact hzero hzero'

/-- If nothing is loaded, it is the file that cannot be used. -/
theorem Loading.unusable {loaded : Except Settings.FileError Settings} {e : Settings.FileError}
    (h : Loading paths path d loaded after) (hloaded : loaded = .error e) :
    d.Unusable paths path := by
  cases h with
  | @read document hentry =>
    cases hload : Settings.load document with
    | ok s =>
      rw [hload] at hloaded
      cases hloaded
    | error e' =>
      rcases exists_load_eq_error_iff.mp ⟨e', hload⟩ with hmalformed | ⟨s, hgiven, hzero⟩
      · exact .malformed hentry hmalformed
      · exact .zeroLimit hentry hgiven hzero
  | notText hentry => exact .notText hentry
  | notFile hentry => exact .notFile hentry
  | refused hentry hrefused => exact .refused hentry hrefused
  | made => cases hloaded

/-- **Nothing is loaded from a file that cannot be used**, and from all others settings are. -/
theorem unusable_iff : d.Unusable paths path ↔
    ∃ e, (Settings.fromFile (accessBy paths input) path).run d = (.error e, d) := by
  constructor
  · intro h
    -- a document that yields no settings is an error of the file
    have hdocument : ∀ {document}, d.entry paths path = .text document →
        (∃ e, Settings.load document = .error e) →
        ∃ e, (Settings.fromFile (accessBy paths input) path).run d = (.error e, d) := by
      rintro document hentry ⟨e, hload⟩
      refine ⟨.load e, ?_⟩
      rw [run_fromFile_of_text hentry, hload]
      rfl
    cases h with
    | notText hentry => exact ⟨.notText, by rw [run_fromFile, hentry]⟩
    | notFile hentry => exact ⟨.notFile, by rw [run_fromFile, hentry]⟩
    | malformed hentry hmalformed =>
      exact hdocument hentry (exists_load_eq_error_iff.mpr (.inl hmalformed))
    | zeroLimit hentry hgiven hzero =>
      exact hdocument hentry (exists_load_eq_error_iff.mpr (.inr ⟨_, hgiven, hzero⟩))
    | refused hentry hrefused =>
      refine ⟨.notCreated, ?_⟩
      rw [run_fromFile, hentry]
      simp only [add?_eq_none_iff.mpr hrefused]
  · rintro ⟨e, herror⟩
    obtain ⟨loaded, after, hrun, hloading⟩ := loading_fromFile paths input path d
    exact hloading.unusable (Prod.mk.inj (hrun.symm.trans herror)).1

/-- A file that sets a limit to zero cannot be used. -/
example : Unusable .nearby ⟨[("a.toml", some "[engine]\nmax_complexity = 0\n")]⟩ "a.toml" := by
  have hentry : entry .nearby ⟨[("a.toml", some "[engine]\nmax_complexity = 0\n")]⟩ "a.toml" =
      .text "[engine]\nmax_complexity = 0\n" := by decide +kernel
  exact .zeroLimit (s := ⟨.default, { EngineSettings.default with maxComplexity := some 0 }⟩)
    hentry (by decide +kernel) (.inl rfl)

end Directory

end StreamNames
