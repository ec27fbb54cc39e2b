import StreamNames.Proofs.Batch.Relocation
import StreamNames.Proofs.Command.Check
import StreamNames.Proofs.Verdict.Toggle

/-!
# Statistics that two commands print

One command reports on each stream of a feed and adds the statistics, another prints the
statistics alone or compares those with the built-in filter on and off. For each of these
the streams are gone through anew, but the numbers are the same.

- `FeedRead`: a command has its settings and its streams, all that its document depends on.
- `StatsAgree`: the documents of all these commands agree.
- `Settings.statsAgree`: they do for all settings and streams.
- `highlight_agrees_with_stats`: these documents are printed.
-/

namespace StreamNames

/-! ## Documents -/

/-- An object has a member that is a number. -/
def Json.HasNumber (document : Json) (name : String) (n : Nat) : Prop :=
  document.member? name = some (.number n)

/-- The reports and the statistics, each with and without the flag that switches the
built-in filter off, agree with each other and with the comparison. -/
structure StatsAgree (settings : Settings) (streams : List Stream) (report stats : Bool → Json)
    (comparison : Json) : Prop where
  shown : ∀ flag, (report flag).member? "stats" = some (stats flag)
  skipped : ∀ flag, flag = true ∨ settings.patterns.skipBuiltinFilter = true →
    comparison.member? "builtin_filter_skipped" = some (stats flag)
  applied : ∀ flag, ¬(flag = true ∨ settings.patterns.skipBuiltinFilter = true) →
    comparison.member? "builtin_filter_applied" = some (stats flag)
  total : ∃ n, (stats false).HasNumber "total" n ∧ (stats true).HasNumber "total" n
  flagged : ∃ n, (stats false).HasNumber "builtin_flagged" n ∧
    (stats true).HasNumber "builtin_flagged" n
  /-- The flag drops no stream. The counters hold the numbers in 64 bits. -/
  included : ∃ m n, m ≤ n ∧ n ≤ streams.length ∧
    (stats false).HasNumber "included" (m % UInt64.size) ∧
    (stats true).HasNumber "included" (n % UInt64.size)
  /-- No counter overflows, unless there are more streams than one can count. -/
  exact : streams.length < UInt64.size → ∃ m n, m ≤ n ∧
    (stats false).HasNumber "included" m ∧ (stats true).HasNumber "included" n

/-- Streams that are kept with the filter on are kept with the filter off. -/
theorem Counts.included_ofRecords_le (records : List Record) (skip skip' : Bool)
    (h : skip = true → skip' = true) :
    (ofRecords records skip).included ≤ (ofRecords records skip').included := by
  cases skip with
  | true => rw [h rfl]
  | false =>
    cases skip' with
    | false => exact Nat.le_refl _
    | true =>
      rw [(accounted_ofRecords records).included]
      exact Nat.le_add_right _ _

namespace Settings

/-- The settings with the switch of the built-in filter in some position. -/
def withSkip (s : Settings) (skip : Bool) : Settings :=
  { s with patterns := { s.patterns with skipBuiltinFilter := skip } }

/-- The comparison of the statistics of some streams, which does not depend on the switch. -/
def comparison (s : Settings) (streams : List Stream) : Json :=
  comparisonDocument (s.fields.stats streams false) (s.fields.stats streams true)

theorem comparison_withSkip (s : Settings) (skip : Bool) (streams : List Stream) :
    (s.withSkip skip).comparison streams = s.comparison streams := rfl

/-- The flag and the switch of the settings switch the filter off, each on its own. -/
theorem skips_iff {s : Settings} {flag : Bool} :
    s.skips flag = true ↔ flag = true ∨ s.patterns.skipBuiltinFilter = true :=
  Bool.or_eq_true_iff

/-- **Reports and statistics agree**, whatever the settings and the streams. -/
theorem statsAgree (s : Settings) (streams : List Stream) :
    StatsAgree s streams (fun flag => (s.fields.evaluate streams (s.skips flag)).toJson)
      (fun flag => (s.fields.stats streams (s.skips flag)).toJson) (s.comparison streams) := by
  -- with the filter on and off the same records are counted
  have hcounts : ∀ skip, s.fields.stats streams skip =
      (Counts.ofRecords (streams.map s.fields.classify) skip).toStats :=
    aggregate_eq_toStats _
  have hincluded : ∃ m n, m ≤ n ∧ n ≤ streams.length ∧
      (s.fields.stats streams (s.skips false)).toJson.HasNumber "included" (m % UInt64.size) ∧
      (s.fields.stats streams (s.skips true)).toJson.HasNumber "included"
        (n % UInt64.size) := by
    refine ⟨_, _, Counts.included_ofRecords_le (streams.map s.fields.classify) (s.skips false)
      (s.skips true) fun _ => rfl, ?_, ?_, ?_⟩
    · exact Nat.le_trans List.countP_le_length (Nat.le_of_eq (List.length_map _))
    · rw [hcounts]
      rfl
    · rw [hcounts]
      rfl
  refine ⟨fun flag => ?shown, fun flag hskip => ?skipped, fun flag hskip => ?applied, ?total,
    ?flagged, hincluded, fun hfits => ?exact⟩
  case shown =>
    show some (s.fields.evaluate streams _).stats.toJson = _
    rw [FieldSet.stats_evaluate]
  case skipped =>
    rw [skips_iff.mpr hskip]
    rfl
  case applied =>
    rw [Bool.eq_false_iff.mpr (mt skips_iff.mp hskip)]
    rfl
  case total =>
    refine ⟨_, rfl, ?_⟩
    rw [hcounts, hcounts]
    rfl
  case flagged =>
    refine ⟨_, rfl, ?_⟩
    rw [hcounts, hcounts]
    rfl
  case exact =>
    obtain ⟨m, n, hle, hlength, hm, hn⟩ := hincluded
    rw [Nat.mod_eq_of_lt (by omega)] at hm hn
    exact ⟨m, n, hle, hm, hn⟩

end Settings

/-! ## Runs -/

section

variable {σ : Type} {access : Access (StateM σ)} {environment given : Option String}
  {feed : String} {before later : σ} {settings : Settings} {streams : List Stream}

/-- The settings that a command is run with are loaded, and then a feed is read. -/
def FeedRead (access : Access (StateM σ)) (environment given : Option String) (feed : String)
    (before : σ) (settings : Settings) (streams : List Stream) (later : σ) : Prop :=
  ∃ after, SettingsLoaded access environment given before settings after ∧
    (readFeed access feed).run after = (.ok streams, later)

/-- Run on streams that are read, a command prints its document. -/
theorem FeedRead.prints {arguments : List String} {c : Command}
    {command : List Stream → Result} {document : Json}
    (h : FeedRead access environment given feed before settings streams later)
    (hparse : Invocation.parse arguments = .ok ⟨given, c⟩)
    (hneeds : ∀ pattern target, c ≠ .translate pattern target)
    (hcommand : c.runWith access settings = Command.onFeed access feed command)
    (hprinted : command streams = .printed document) :
    Prints access environment arguments before later 0 document := by
  obtain ⟨after, hload, hread⟩ := h
  have hrun : ((⟨given, c⟩ : Invocation).run access environment).run before =
      (.printed document, later) := by
    rw [Invocation.run_of_load hload hneeds, hcommand, onFeed_of_read hread, hprinted]
  exact prints_of_run hparse hrun rfl

/-- The program prints the reports, the statistics and the comparison, where the flag is
given and where it is not. -/
structure PrintsStatistics (access : Access (StateM σ)) (environment given : Option String)
    (feed : String) (before later : σ) (report stats : Bool → Json) (comparison : Json) :
    Prop where
  highlight : ∀ flag arguments, Invocation.parse arguments = .ok ⟨given, .highlight feed flag⟩ →
    Prints access environment arguments before later 0 (report flag)
  stats : ∀ flag arguments, Invocation.parse arguments = .ok ⟨given, .stats feed flag false⟩ →
    Prints access environment arguments before later 0 (stats flag)
  compare : ∀ flag arguments, Invocation.parse arguments = .ok ⟨given, .stats feed flag true⟩ →
    Prints access environment arguments before later 0 comparison

/-- **The command that reports on streams and the one that counts them agree**, for all
settings that are loaded and all feeds that are read. The comparison is printed wherever the
settings differ in nothing but the switch of the built-in filter. -/
theorem highlight_agrees_with_stats
    (h : FeedRead access environment given feed before settings streams later) :
    ∃ report stats comparison,
      PrintsStatistics access environment given feed before later report stats comparison ∧
      StatsAgree settings streams report stats comparison ∧
      ∀ (skip : Bool) (access' : Access (StateM σ)) (environment' given' : Option String)
        (feed' : String) (before' later' : σ),
        FeedRead access' environment' given' feed' before' (settings.withSkip skip) streams
          later' →
        ∀ flag arguments, Invocation.parse arguments = .ok ⟨given', .stats feed' flag true⟩ →
          Prints access' environment' arguments before' later' 0 comparison := by
  refine ⟨_, _, _, ⟨?highlight, ?stats, ?compare⟩, settings.statsAgree streams, ?elsewhere⟩
  case highlight =>
    intro flag arguments hparse
    exact h.prints hparse (fun _ _ => Command.noConfusion) rfl rfl
  case stats =>
    intro flag arguments hparse
    exact h.prints hparse (fun _ _ => Command.noConfusion) rfl rfl
  case compare =>
    intro flag arguments hparse
    exact h.prints hparse (fun _ _ => Command.noConfusion) rfl rfl
  case elsewhere =>
    intro skip access' environment' given' feed' before' later' h' flag arguments hparse
    -- the fields do not depend on the switch, and the comparison has both its positions
    rw [← settings.comparison_withSkip skip streams]
    exact h'.prints hparse (fun _ _ => Command.noConfusion) rfl rfl

end

/-- A directory with a file of settings that says nothing, which is read as the defaults. -/
def blankDirectory : Directory := ⟨[("a.toml", some "")]⟩

/-- The input has a stream that the built-in filter flagged. -/
def flaggedStream : Access (StateM Directory) := Directory.access (some "[[\"x\",\"y\"]]")

/-- A stream that was flagged is dropped, and with the flag it is kept. The reports show the
same statistics as the comparison, once with the filter on and once with it off. -/
theorem highlight_agrees_with_stats_of_flaggedStream :
    FeedRead flaggedStream none (some "a.toml") "-" blankDirectory .default
      [⟨"x", some "y"⟩] blankDirectory ∧
    ∃ (report : Bool → Json) (comparison : Json),
      Prints flaggedStream none ["-c", "a.toml", "highlight"] blankDirectory blankDirectory 0
        (report false) ∧
      Prints flaggedStream none ["-c", "a.toml", "highlight", "--skip-builtin-filter"]
        blankDirectory blankDirectory 0 (report true) ∧
      Prints flaggedStream none ["-c", "a.toml", "stats", "--compare"] blankDirectory
        blankDirectory 0 comparison ∧
      (report false).member? "stats" = comparison.member? "builtin_filter_applied" ∧
      (report true).member? "stats" = comparison.member? "builtin_filter_skipped" := by
  have hentry : blankDirectory.entry .nearby "a.toml" = .text "" := by decide +kernel
  have hread : FeedRead flaggedStream none (some "a.toml") "-" blankDirectory .default
      [⟨"x", some "y"⟩] blankDirectory :=
    ⟨_, settingsLoaded_of_entry hentry (by decide +kernel), readFeed_input (by decide +kernel)⟩
  obtain ⟨report, stats, comparison, hprints, hagree, -⟩ := highlight_agrees_with_stats hread
  refine ⟨hread, report, comparison, hprints.highlight false _ rfl, hprints.highlight true _ rfl,
    hprints.compare false _ rfl, ?_, ?_⟩
  · rw [hagree.shown, hagree.applied false (by decide)]
  · rw [hagree.shown, hagree.skipped true (.inl rfl)]

end StreamNames
