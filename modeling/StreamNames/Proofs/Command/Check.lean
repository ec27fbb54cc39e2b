import Mathlib.Data.List.Forall2
import StreamNames.Command.Run
import StreamNames.Proofs.Batch.Fields
import StreamNames.Proofs.Settings.Loading

/-!
# The check of the settings

The check prints an entry for each pattern of the settings and fails if one is refused. What
it prints of a pattern is what the validation of that pattern prints, and a pattern that it
shows as refused takes no part where streams are highlighted.

- `Json.EntryFor`: an entry tells of a pattern what its validation tells.
- `Settings.Checked`: the entries for all patterns, and the exit code.
- `BatchReport.PassesOver`: a report to which refused patterns contribute nothing.
- `Prints`: what a run of the program prints. A run with settings that are loaded is a run
  of its command with these (`Invocation.run_of_load`).
- `check_tells_what_commands_do`: the check, the validation and the highlights agree.
-/

namespace StreamNames

open PatternSettings (toPattern)

/-! ## Entries -/

namespace Json

/-- The member of an object with a name. -/
def member? : Json → (name : String) → Option Json
  | .object members, name => members.lookup name
  | _, _ => none

/-- An entry shows a pattern as refused. -/
def ShowsRefusal (entry : Json) : Prop :=
  ∃ result, entry.member? "result" = some result ∧ result.member? "valid" = some (.bool false)

/-- An entry tells of a pattern in use what the validation of its text tells, and of any
other no result. -/
structure EntryFor (limits : PatternLimits) (p : Pattern) (entry : Json) : Prop where
  tag : entry.member? "tag" = some (.string p.tag.name)
  enabled : entry.member? "enabled" = some (.bool p.enabled)
  result : (entry.member? "result").isSome ↔ p.enabled = true ∧ Text.isBlank p.source = false
  valid : ∀ result, entry.member? "result" = some result → ∃ b,
    result.member? "valid" = some (.bool b) ∧
      (validationDocument limits p.source).member? "valid" = some (.bool b)
  error : ∀ result, entry.member? "result" = some result →
    result.member? "error" = (validationDocument limits p.source).member? "error"

end Json

theorem Tag.name_inj {a b : Tag} : a.name = b.name ↔ a = b := by
  constructor
  · intro h
    cases a <;> cases b <;> first | rfl | exact absurd h (by decide)
  · rintro rfl
    rfl

theorem member?_result_toJson (r : FieldReport) :
    r.toJson.member? "result" = r.result.map fun result => .object (acceptance result) := by
  unfold FieldReport.toJson
  cases r.result <;> rfl

/-- Whether a pattern is accepted is told by one member, whatever its text. -/
theorem member?_valid_acceptance (result : Except PatternError CompiledPattern) :
    (Json.object (acceptance result)).member? "valid" = some (.bool result.isOk) := by
  cases result <;> rfl

/-- A validation tells the same of a pattern as its acceptance. -/
theorem member?_validationDocument (limits : PatternLimits) (pattern : String) {name : String}
    (h : name = "valid" ∨ name = "error") :
    (validationDocument limits pattern).member? name =
      (Json.object (acceptance (CompiledPattern.compile limits pattern))).member? name := by
  unfold validationDocument
  cases CompiledPattern.compile limits pattern with
  | error e => rcases h with rfl | rfl <;> rfl
  | ok p => rcases h with rfl | rfl <;> cases hnames : p.groupNames <;> simp [hnames] <;> rfl

theorem member?_result_ofPattern (limits : PatternLimits) (p : Pattern) :
    (FieldReport.ofPattern limits p).toJson.member? "result" =
      if p.isConfigured then
        some (.object (acceptance (CompiledPattern.compile limits p.source)))
      else none := by
  rw [member?_result_toJson]
  show Option.map _ (if p.isConfigured then _ else none) = _
  cases p.isConfigured <;> rfl

/-- **The entry of a field tells what its pattern's own validation tells.** -/
theorem entryFor_toJson (limits : PatternLimits) (p : Pattern) :
    (FieldReport.ofPattern limits p).toJson.EntryFor limits p := by
  have hmember := member?_result_ofPattern limits p
  -- a result is that of the pattern's own compilation
  have hresult : ∀ result, (FieldReport.ofPattern limits p).toJson.member? "result" =
      some result → result = .object (acceptance (CompiledPattern.compile limits p.source)) := by
    intro result h
    rw [hmember] at h
    exact (Option.some.inj (Option.ite_none_right_eq_some.mp h).2).symm
  refine ⟨rfl, rfl, ?result, fun result h => ?valid, fun result h => ?error⟩
  case result =>
    rw [hmember, ← Pattern.isConfigured_iff]
    cases p.isConfigured <;> simp
  case valid =>
    rw [hresult result h, member?_validationDocument limits p.source (.inl rfl)]
    exact ⟨_, member?_valid_acceptance _, member?_valid_acceptance _⟩
  case error =>
    rw [hresult result h, member?_validationDocument limits p.source (.inr rfl)]

/-- An entry shows a refusal if the pattern is in use and refused. -/
theorem showsRefusal_toJson_iff {limits : PatternLimits} {p : Pattern} :
    (FieldReport.ofPattern limits p).toJson.ShowsRefusal ↔ p.isRejected limits = true := by
  unfold Json.ShowsRefusal
  rw [member?_result_ofPattern, Pattern.isRejected]
  cases p.isConfigured with
  | false => simp
  | true => simp [member?_valid_acceptance]

/-! ## The check -/

/-- Among some entries is one for a tag, and it shows a refusal. -/
def RefusedAmong (entries : List Json) (tag : Tag) : Prop :=
  ∃ entry ∈ entries, entry.member? "tag" = some (.string tag.name) ∧ entry.ShowsRefusal

/-- The entries of the check, and its exit code. -/
structure Settings.Checked (s : Settings) (entries : List Json) (code : Nat) : Prop where
  tags : entries.map (·.member? "tag") =
    ["teams", "date", "time", "league", "include", "exclude"].map (some ∘ .string)
  results : List.Forall₂ (Json.EntryFor s.engine.limits) s.patterns.allPatterns entries
  code_one : code = 1 ↔ ∃ entry ∈ entries, entry.ShowsRefusal
  code_zero : code = 0 ↔ ¬∃ entry ∈ entries, entry.ShowsRefusal

namespace Settings

/-- The entries that the check prints. -/
def entries (s : Settings) : List Json := s.fields.reports.map FieldReport.toJson

theorem entries_eq_map (s : Settings) :
    s.entries = s.patterns.allPatterns.map fun p =>
      (FieldReport.ofPattern s.engine.limits p).toJson :=
  rfl

theorem exists_showsRefusal_iff {s : Settings} :
    (∃ entry ∈ s.entries, entry.ShowsRefusal) ↔
      ∃ p ∈ s.patterns.allPatterns, p.isRejected s.engine.limits = true := by
  rw [entries_eq_map]
  constructor
  · rintro ⟨entry, hentry, hrefusal⟩
    obtain ⟨p, hp, rfl⟩ := List.mem_map.mp hentry
    exact ⟨p, hp, showsRefusal_toJson_iff.mp hrefusal⟩
  · rintro ⟨p, hp, hrejected⟩
    exact ⟨_, List.mem_map_of_mem hp, showsRefusal_toJson_iff.mpr hrejected⟩

theorem hasErrors_fields_iff {s : Settings} :
    s.fields.hasErrors = true ↔ ∃ entry ∈ s.entries, entry.ShowsRefusal := by
  have hreports : s.fields.reports =
      s.patterns.allPatterns.map (.ofPattern s.engine.limits) := rfl
  rw [exists_showsRefusal_iff, FieldSet.hasErrors, hreports, List.any_map, List.any_eq_true]
  simp only [Function.comp_apply, FieldReport.isRejected_ofPattern]

/-- The exit code of the check. -/
def checkCode (s : Settings) : Nat := (Outcome.ofResult s.checkResult).code

theorem checkCode_eq (s : Settings) : s.checkCode = if s.fields.hasErrors then 1 else 0 := by
  unfold checkCode checkResult Outcome.ofResult
  cases s.fields.hasErrors <;> rfl

/-- **The check has an entry for each pattern and fails if one shows a refusal.** -/
theorem checked_entries (s : Settings) : s.Checked s.entries s.checkCode where
  tags := rfl
  results := by
    rw [entries_eq_map, List.forall₂_map_right_iff]
    exact List.forall₂_same.mpr fun p _ => entryFor_toJson s.engine.limits p
  code_one := by
    rw [← hasErrors_fields_iff, checkCode_eq]
    cases s.fields.hasErrors <;> simp
  code_zero := by
    rw [← hasErrors_fields_iff, checkCode_eq]
    cases s.fields.hasErrors <;> simp

end Settings

/-! ## Highlights -/

/-- In a report on streams a pattern that is refused picks nothing out: the ranges are those
without its field. One that streams must match is matched by none, and so is one that they
must not. -/
structure BatchReport.PassesOver (report : BatchReport) (s : Settings) (streams : List Stream)
    (refused : Tag → Prop) : Prop where
  names : report.items.map (·.name) = streams.map (·.name)
  extraction : ∀ tag, tag.isExtraction → refused tag →
    report.items.map (·.record.extractionRanges) = streams.map fun stream =>
      (FieldSet.compile (s.patterns.without tag) s.engine).extractionRanges stream.name
  includes : refused .includes → ∀ item ∈ report.items, item.record.includeMatch = .notMatched
  excludes : refused .excludes → ∀ item ∈ report.items, item.record.excludeMatch = false

/-- An entry that shows a refusal is that of a field whose pattern is refused. -/
theorem Settings.rejects_of_refusedAmong {s : Settings} {tag : Tag}
    (h : RefusedAmong s.entries tag) : s.patterns.Rejects s.engine.limits tag := by
  obtain ⟨entry, hentry, htag, hrefusal⟩ := h
  rw [entries_eq_map] at hentry
  obtain ⟨p, hp, rfl⟩ := List.mem_map.mp hentry
  obtain ⟨field, hfield, heq⟩ := PatternSettings.exists_field_of_mem hp
  obtain rfl : p.tag = tag := by
    rw [(entryFor_toJson s.engine.limits p).tag] at htag
    exact Tag.name_inj.mp (Json.string.inj (Option.some.inj htag))
  refine ⟨field, hfield, ?_⟩
  rw [← heq]
  exact showsRefusal_toJson_iff.mp hrefusal

/-- **What the check shows as refused is passed over where streams are highlighted.** -/
theorem Settings.passesOver_evaluate (s : Settings) (streams : List Stream) (skip : Bool) :
    (s.fields.evaluate streams skip).PassesOver s streams (RefusedAmong s.entries) where
  names := List.map_map
  extraction := by
    intro tag _ hrefused
    rw [FieldSet.evaluate, List.map_map]
    refine List.map_congr_left fun stream _ => ?_
    exact (extractionRanges_without (s.rejects_of_refusedAmong hrefused) stream.name).symm
  includes := by
    intro hrefused item hitem
    obtain ⟨stream, -, rfl⟩ := List.mem_map.mp hitem
    exact includeMatch_of_rejects (s.rejects_of_refusedAmong hrefused) stream.name
  excludes := by
    intro hrefused item hitem
    obtain ⟨stream, -, rfl⟩ := List.mem_map.mp hitem
    exact excludeMatch_of_rejects (s.rejects_of_refusedAmong hrefused) stream.name

/-! ## Runs of the program -/

section

variable {σ : Type} {access : Access (StateM σ)} {environment : Option String}
  {before after : σ}

/-- Run with some arguments, the program prints a document and leaves an exit code. -/
def Prints (access : Access (StateM σ)) (environment : Option String) (arguments : List String)
    (before after : σ) (code : Nat) (document : Json) : Prop :=
  ∃ complaint, (runProgram access environment arguments).run before =
    (⟨code, document.pretty ++ "\n", complaint⟩, after)

/-- The settings that a command is run with are loaded from a file. -/
def SettingsLoaded (access : Access (StateM σ)) (environment given : Option String)
    (before : σ) (settings : Settings) (after : σ) : Prop :=
  (Settings.fromFile access ((given.or environment).getD Invocation.defaultPath)).run before =
    (.ok settings, after)

variable {given : Option String} {settings : Settings}

/-- With settings that are loaded, a command is run with these. -/
theorem Invocation.run_of_load {i : Invocation}
    (hload : SettingsLoaded access environment i.settingsPath before settings after)
    (hcommand : ∀ pattern target, i.command ≠ .translate pattern target) :
    (i.run access environment).run before =
      (i.command.runWith access settings).run after := by
  unfold Invocation.run
  split
  · next pattern target heq => exact absurd heq (hcommand pattern target)
  · rw [StateT.run_bind, hload]
    rfl

theorem output_ofResult (r : Result) : (Outcome.ofResult r).output = r.output := by
  unfold Outcome.ofResult
  split <;> rfl

/-- A run of the program is that of the command which its arguments ask for. -/
theorem runProgram_of_run {arguments : List String} {i : Invocation} {result : Result}
    (hparse : Invocation.parse arguments = .ok i)
    (hrun : (i.run access environment).run before = (result, after)) :
    (runProgram access environment arguments).run before =
      (Outcome.ofResult result, after) := by
  unfold runProgram
  rw [hparse]
  -- what is left is the command, and its result made an outcome
  show ((i.run access environment >>= fun result => pure (Outcome.ofResult result)).run before) = _
  rw [StateT.run_bind, hrun]
  rfl

/-- A run that puts out a document prints it, with the exit code of its result. -/
theorem prints_of_run {arguments : List String} {i : Invocation} {result : Result}
    {document : Json} (hparse : Invocation.parse arguments = .ok i)
    (hrun : (i.run access environment).run before = (result, after))
    (houtput : result.output = document.pretty ++ "\n") :
    Prints access environment arguments before after (Outcome.ofResult result).code document := by
  refine ⟨(Outcome.ofResult result).complaint, ?_⟩
  rw [← houtput, ← output_ofResult]
  exact runProgram_of_run hparse hrun

/-- Run on a feed that can be read, a command puts out its result. -/
theorem onFeed_of_read {feed : String} {streams : List Stream}
    (hread : (readFeed access feed).run before = (.ok streams, after))
    (command : List Stream → Result) :
    (Command.onFeed access feed command).run before = (command streams, after) := by
  unfold Command.onFeed
  rw [StateT.run_bind, hread]
  rfl

/-- **The check, the validation and the highlights agree**, for all settings that can be
loaded. The check has six entries, each with the result that the validation of its pattern
has, or with none if the field is off or blank. The exit code is one if an entry shows a
refusal and zero if none does, and what is shown as refused is passed over by highlights. -/
theorem check_tells_what_commands_do
    (hload : SettingsLoaded access environment given before settings after) :
    settings.Checked settings.entries settings.checkCode ∧
      (∀ arguments, Invocation.parse arguments = .ok ⟨given, .check⟩ →
        Prints access environment arguments before after settings.checkCode
          (.array settings.entries)) ∧
      (∀ pattern arguments, Invocation.parse arguments = .ok ⟨given, .validate pattern⟩ →
        Prints access environment arguments before after 0
          (validationDocument settings.engine.limits pattern)) ∧
      ∀ feed flag arguments streams later,
        Invocation.parse arguments = .ok ⟨given, .highlight feed flag⟩ →
        (readFeed access feed).run after = (.ok streams, later) →
        ∃ report : BatchReport, Prints access environment arguments before later 0 report.toJson ∧
          report.PassesOver settings streams (RefusedAmong settings.entries) := by
  -- the settings are loaded, so each command is run with them from there on
  refine ⟨settings.checked_entries, ?check, ?validate, ?highlight⟩
  case check =>
    intro arguments hparse
    have hrun : ((⟨given, .check⟩ : Invocation).run access environment).run before =
        (settings.checkResult, after) :=
      Invocation.run_of_load hload fun _ _ => Command.noConfusion
    exact prints_of_run hparse hrun rfl
  case validate =>
    intro pattern arguments hparse
    have hrun : ((⟨given, .validate pattern⟩ : Invocation).run access environment).run before =
        (settings.validateResult pattern, after) :=
      Invocation.run_of_load hload fun _ _ => Command.noConfusion
    exact prints_of_run hparse hrun rfl
  case highlight =>
    intro feed flag arguments streams later hparse hread
    refine ⟨settings.fields.evaluate streams (settings.skips flag), ?_,
      settings.passesOver_evaluate streams _⟩
    have hrun : ((⟨given, .highlight feed flag⟩ : Invocation).run access environment).run before =
        (settings.highlightResult flag streams, later) := by
      rw [Invocation.run_of_load hload fun _ _ => Command.noConfusion]
      exact onFeed_of_read hread _
    exact prints_of_run hparse hrun rfl

end

/-- Settings are loaded from the file that a path leads to. -/
theorem settingsLoaded_of_entry {paths : Paths} {input environment : Option String}
    {d : Directory} {path document : String} {settings : Settings}
    (hentry : d.entry paths path = .text document)
    (hload : (Settings.load document).toOption = some settings) :
    SettingsLoaded (Directory.accessBy paths input) environment (some path) d settings d := by
  have hok : Settings.load document = .ok settings := by
    cases h : Settings.load document <;> rw [h] at hload <;> cases hload
    rfl
  unfold SettingsLoaded
  rw [Option.some_or, Option.getD_some, Directory.run_fromFile_of_text hentry, hok]
  rfl

/-- The input is read as a feed. -/
theorem readFeed_input {paths : Paths} {contents : String} {d : Directory}
    {streams : List Stream} (hparse : (Feed.parse contents).toOption = some streams) :
    (readFeed (Directory.accessBy paths (some contents)) "-").run d = (.ok streams, d) := by
  have hok : Feed.parse contents = .ok streams := by
    cases h : Feed.parse contents <;> rw [h] at hparse <;> cases hparse
    rfl
  have hread : (readContents (Directory.accessBy paths (some contents)) "-").run d =
      (.ok contents, d) := by
    rw [readContents, if_pos rfl]
    rfl
  unfold readFeed
  rw [StateT.run_bind, hread]
  show ((Feed.parse contents).mapError _, d) = _
  rw [hok]
  rfl

/-- Settings under which streams must not match an unclosed group. -/
def unclosedExclude : Settings :=
  ⟨{ PatternSettings.default with excludes := ⟨"(", true⟩ }, .default⟩

/-- A directory with a file of these settings. -/
def unclosedDirectory : Directory :=
  ⟨[("a.toml", some "[patterns.exclude]\npattern = \"(\"\n")]⟩

/-- The input has one stream. -/
def oneStream : Access (StateM Directory) := Directory.access (some "[[\"x\"]]")

/-- The check of an unclosed group fails, its validation shows why, and streams are
highlighted without it. -/
theorem check_tells_of_unclosedExclude :
    SettingsLoaded oneStream none (some "a.toml") unclosedDirectory unclosedExclude
      unclosedDirectory ∧
    Prints oneStream none ["-c", "a.toml", "check"] unclosedDirectory unclosedDirectory 1
      (.array unclosedExclude.entries) ∧
    RefusedAmong unclosedExclude.entries .excludes ∧
    Prints oneStream none ["-c", "a.toml", "validate", "--", "("] unclosedDirectory
      unclosedDirectory 0 (validationDocument .none "(") ∧
    ∃ report : BatchReport,
      Prints oneStream none ["-c", "a.toml", "highlight"] unclosedDirectory unclosedDirectory 0
        report.toJson ∧
      report.PassesOver unclosedExclude [⟨"x", none⟩] (RefusedAmong unclosedExclude.entries) := by
  have hentry : unclosedDirectory.entry .nearby "a.toml" =
      .text "[patterns.exclude]\npattern = \"(\"\n" := by decide +kernel
  have hload : SettingsLoaded oneStream none (some "a.toml") unclosedDirectory unclosedExclude
      unclosedDirectory := settingsLoaded_of_entry hentry (by decide +kernel)
  have hread : (readFeed oneStream "-").run unclosedDirectory =
      (.ok [⟨"x", none⟩], unclosedDirectory) :=
    readFeed_input (by decide +kernel)
  obtain ⟨-, hcheck, hvalidate, hhighlight⟩ := check_tells_what_commands_do hload
  refine ⟨hload, ?code, ?refused, hvalidate "(" _ rfl, hhighlight "-" false _ _ _ rfl hread⟩
  case code =>
    have hcode : unclosedExclude.checkCode = 1 := by decide +kernel
    rw [← hcode]
    exact hcheck _ rfl
  case refused =>
    have hrejected : unclosedExclude.patterns.excludePattern.isRejected .none := by
      decide +kernel
    refine ⟨_, List.mem_map_of_mem (List.mem_append_right _ ?_), rfl,
      showsRefusal_toJson_iff.mpr hrejected⟩
    exact List.mem_cons_of_mem _ List.mem_cons_self

end StreamNames
