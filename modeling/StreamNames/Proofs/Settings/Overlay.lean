import StreamNames.Proofs.Settings.Defaults

/-!
# Settings laid over the defaults

A document of settings has a table within a table, any of which may be missing, empty or
filled in part. What it gives is laid over the defaults, one setting at a time: it does not
matter at which of the tables a setting goes missing.

- `SettingsTable`, `Setting`: the tables of a document and the settings in them.
- `Settings.Overlays`: each setting is as the document gives it, or else the default.
- `Settings.ofToml?_eq_some_iff`: these settings, and no others, are what a document gives.
- `DifferInDefaults`: documents of which one spells out defaults that the other leaves out.
- `Settings.overlaysDefaults`: what is loaded from a document, and when it is refused.
-/

namespace StreamNames

/-! ## Records in documents -/

namespace Toml

variable {names : List String}

/-- What a record gives under one of its names: a table by the name, an array by the place
of the name. -/
def named? (names : List String) (name : String) : Toml → Option Toml
  | table _ members => members.lookup name
  | array _ items => items[names.idxOf name]?
  | _ => none

/-- What a record gives beside its names. A value that is no record has no answer. -/
def others? (names : List String) : Toml → Option Members
  | table _ members => some (members.filter fun member => !names.contains member.1)
  | array _ _ | moment => some []
  | _ => none

/-- The same of a record that may be missing. -/
def othersOf? (names : List String) : Option Toml → Option Members
  | some value => value.others? names
  | none => some []

/-- There is a record, and what it gives beside its names can be passed over. -/
def CanPass (others : Option Members) : Prop :=
  ∃ members, others = some members ∧ ∀ member ∈ members, member.2.isReadable

theorem lookup_zip_eq_getElem? {name : String} (hname : name ∈ names) (items : List Toml) :
    (names.zip items).lookup name = items[names.idxOf name]? := by
  induction names generalizing items with
  | nil => cases hname
  | cons other names ih =>
    cases items with
    | nil => rfl
    | cons item items =>
      rw [List.zip_cons_cons, List.lookup_cons, List.idxOf_cons]
      by_cases heq : name = other
      · subst heq
        simp
      · have hmem : name ∈ names := (List.mem_cons.mp hname).resolve_left heq
        rw [beq_eq_false_iff_ne.mpr heq, beq_eq_false_iff_ne.mpr (Ne.symm heq)]
        exact ih hmem items

/-- A record is read exactly if the rest of it can be passed over, and what is read of it is
what it gives under its names. -/
theorem fields?_bind_eq_some_iff {α : Type} {value : Toml} {a : α}
    {read : (String → Option Toml) → Option α}
    (hread : ∀ given given', (∀ name ∈ names, given name = given' name) →
      read given = read given') :
    (value.fields? names >>= read) = some a ↔
      CanPass (value.others? names) ∧ read (value.named? names) = some a := by
  -- whatever the form, only the named values are read and the others have to pass
  have hiff : ∀ given, value.fields? names = some given → CanPass (value.others? names) →
      (∀ name ∈ names, given name = value.named? names name) →
      ((value.fields? names >>= read) = some a ↔
        CanPass (value.others? names) ∧ read (value.named? names) = some a) := by
    intro given hgiven hpass hentry
    rw [hgiven, ← hread given _ hentry]
    exact (and_iff_right hpass).symm
  cases value with
  | table form members =>
    have hall : (members.all fun member => names.contains member.1 || member.2.isReadable) = true ↔
        CanPass ((table form members).others? names) := by
      simp [CanPass, others?, or_iff_not_imp_left]
    by_cases hpass : CanPass ((table form members).others? names)
    · exact hiff _ (if_pos (hall.mpr hpass)) hpass fun _ _ => rfl
    · have hnone : (table form members).fields? names = none := if_neg (mt hall.mp hpass)
      rw [hnone]
      exact iff_of_false (Option.some_ne_none a).symm fun h => hpass h.1
  -- a record can be given by position, with no names that could be unknown
  | array form items =>
    exact hiff _ rfl ⟨[], rfl, List.forall_mem_nil _⟩
      fun name hname => lookup_zip_eq_getElem? hname items
  | moment => exact hiff _ rfl ⟨[], rfl, List.forall_mem_nil _⟩ fun _ _ => rfl
  | text | integer | float | boolean =>
    exact iff_of_false (Option.some_ne_none a).symm (by rintro ⟨⟨_, ⟨⟩, _⟩, _⟩)

end Toml

open Toml (orDefault named? othersOf? CanPass)

/-! ## Tables and settings -/

/-- The fields for patterns. -/
inductive FieldName where
  | teams | date | time | league | includes | excludes

namespace FieldName

/-- The tag of the patterns in a field. -/
def tag : FieldName → Tag
  | teams => .teams
  | date => .date
  | time => .time
  | league => .league
  | includes => .includes
  | excludes => .excludes

/-- The name of a field in documents. -/
def name (field : FieldName) : String := field.tag.name

end FieldName

/-- The field with a name. -/
def PatternSettings.field (s : PatternSettings) : FieldName → FieldSettings
  | .teams => s.teams
  | .date => s.date
  | .time => s.time
  | .league => s.league
  | .includes => s.includes
  | .excludes => s.excludes

/-- Every field is the same by default. -/
@[simp] theorem PatternSettings.field_default (field : FieldName) :
    PatternSettings.default.field field = .default := by
  cases field <;> rfl

/-- The tables that a document of settings may have. -/
inductive SettingsTable where
  | root | patterns | field (name : FieldName) | engine

namespace SettingsTable

/-- The names in a table, in order. -/
def names : SettingsTable → List String
  | root => ["patterns", "engine"]
  | patterns => ["skip_builtin_filter", "teams", "date", "time", "league", "include", "exclude"]
  | field _ => ["pattern", "enabled"]
  | engine => ["parallel_threshold", "group_location", "max_complexity", "max_repetition"]

/-- A table of a document, if it is there. -/
def value? (document : Toml.Members) : SettingsTable → Option Toml
  | root => some (.table .header document)
  | patterns => document.lookup "patterns"
  | field name => (document.lookup "patterns").bind (named? patterns.names name.name)
  | engine => document.lookup "engine"

/-- What a document gives in a table that is no setting. -/
def others? (document : Toml.Members) (table : SettingsTable) : Option Toml.Members :=
  othersOf? table.names (table.value? document)

end SettingsTable

/-- A setting, with the type of its value. -/
inductive Setting : Type → Type
  | skipBuiltinFilter : Setting Bool
  | pattern (field : FieldName) : Setting String
  | enabled (field : FieldName) : Setting Bool
  | parallelThreshold : Setting Nat
  | groupLocation : Setting GroupLocation
  | maxComplexity : Setting (Option Nat)
  | maxRepetition : Setting (Option Nat)

namespace Setting

variable {α : Type}

/-- The table of a setting. -/
def table : Setting α → SettingsTable
  | skipBuiltinFilter => .patterns
  | pattern field | enabled field => .field field
  | parallelThreshold | groupLocation | maxComplexity | maxRepetition => .engine

/-- The name of a setting in its table. -/
def name : Setting α → String
  | skipBuiltinFilter => "skip_builtin_filter"
  | pattern _ => "pattern"
  | enabled _ => "enabled"
  | parallelThreshold => "parallel_threshold"
  | groupLocation => "group_location"
  | maxComplexity => "max_complexity"
  | maxRepetition => "max_repetition"

/-- The value of a setting as a document gives it. A limit is set if it is given. -/
def read? : {α : Type} → Setting α → Toml → Option α
  | _, skipBuiltinFilter => Toml.boolean?
  | _, pattern _ => Toml.text?
  | _, enabled _ => Toml.boolean?
  | _, parallelThreshold => Toml.natural? UInt64.size
  | _, groupLocation => GroupLocation.ofToml?
  | _, maxComplexity => fun value => (value.natural? UInt32.size).map some
  | _, maxRepetition => fun value => (value.natural? UInt64.size).map some

/-- The value of a setting. -/
def get : {α : Type} → Setting α → Settings → α
  | _, skipBuiltinFilter, s => s.patterns.skipBuiltinFilter
  | _, pattern field, s => (s.patterns.field field).pattern
  | _, enabled field, s => (s.patterns.field field).enabled
  | _, parallelThreshold, s => s.engine.parallelThreshold
  | _, groupLocation, s => s.engine.groupLocation
  | _, maxComplexity, s => s.engine.maxComplexity
  | _, maxRepetition, s => s.engine.maxRepetition

/-- What a document gives for a setting: nothing if the setting is missing, and nothing if a
table on the way to it is. -/
def given? (document : Toml.Members) (setting : Setting α) : Option Toml :=
  (setting.table.value? document).bind (named? setting.table.names setting.name)

/-- A setting has the value that a document gives, or the default where it gives none. -/
def Overlaid (document : Toml.Members) (setting : Setting α) (value : α) : Prop :=
  match setting.given? document with
  | some given => setting.read? given = some value
  | none => value = setting.get .default

theorem orDefault_eq_some_iff {document : Toml.Members} {setting : Setting α} {value : α} :
    orDefault (setting.given? document) setting.read? (setting.get .default) = some value ↔
      setting.Overlaid document value := by
  unfold Overlaid
  cases setting.given? document with
  | some given => rfl
  | none => exact Option.some_inj.trans eq_comm

end Setting

/-- All settings are as a document gives them, or else the defaults. -/
def Settings.Overlays (s : Settings) (document : Toml.Members) : Prop :=
  ∀ {α : Type} (setting : Setting α), setting.Overlaid document (setting.get s)

/-- All tables of a document are records, and what is no setting can be passed over. -/
def Settings.Usable (document : Toml.Members) : Prop :=
  ∀ table : SettingsTable, CanPass (table.others? document)

/-! ## What a document gives -/

section Records

open SettingsTable (names)

/-- A record that may be missing is read as what it gives under its names, if the default is
what an empty record gives. -/
theorem orDefault_record_eq_some_iff {α : Type} {names : List String} {read : Toml → Option α}
    {ofFields : (String → Option Toml) → Option α} {given : Option Toml} {default a : α}
    (hread : ∀ value, read value = value.fields? names >>= ofFields)
    (hnil : read (.table .header []) = some default)
    (hnames : ∀ given given', (∀ name ∈ names, given name = given' name) →
      ofFields given = ofFields given') :
    orDefault given read default = some a ↔ CanPass (othersOf? names given) ∧
      ofFields (fun name => given.bind (named? names name)) = some a := by
  have hvalue : ∀ value, read value = some a ↔ CanPass (value.others? names) ∧
      ofFields (value.named? names) = some a := by
    intro value
    rw [hread]
    exact Toml.fields?_bind_eq_some_iff hnames
  cases given with
  | some value => exact hvalue value
  | none =>
    -- nothing is given, as in an empty record
    rw [← show read (.table .header []) = orDefault none read default from hnil]
    exact hvalue (.table .header [])

/-- A field, or the default of one that is missing. -/
theorem FieldSettings.orDefault_eq_some_iff {given : Option Toml} {f : FieldSettings}
    (field : FieldName) :
    orDefault given ofToml? .default = some f ↔
      CanPass (othersOf? (names (.field field)) given) ∧
      orDefault (given.bind (named? (names (.field field)) "pattern")) Toml.text?
        FieldSettings.default.pattern = some f.pattern ∧
      orDefault (given.bind (named? (names (.field field)) "enabled")) Toml.boolean?
        FieldSettings.default.enabled = some f.enabled := by
  obtain ⟨pattern, enabled⟩ := f
  refine (orDefault_record_eq_some_iff (fun _ => rfl) (ofToml?_nil _) fun given given' h => ?_).trans
    (and_congr_right fun _ => ?_)
  · rw [h "pattern" (by decide), h "enabled" (by decide)]
  · simp [Option.bind_eq_some_iff, names, default]

/-- A statement on all fields, field by field. -/
theorem FieldName.forall_iff {p : FieldName → Prop} :
    (∀ field, p field) ↔
      p .teams ∧ p .date ∧ p .time ∧ p .league ∧ p .includes ∧ p .excludes :=
  ⟨fun h => ⟨h _, h _, h _, h _, h _, h _⟩,
    fun ⟨h₁, h₂, h₃, h₄, h₅, h₆⟩ field => by cases field <;> assumption⟩

/-- The patterns, or the defaults where they are missing. -/
theorem PatternSettings.orDefault_eq_some_iff {given : Option Toml} {s : PatternSettings} :
    orDefault given ofToml? .default = some s ↔
      CanPass (othersOf? (names .patterns) given) ∧
      orDefault (given.bind (named? (names .patterns) "skip_builtin_filter")) Toml.boolean?
        default.skipBuiltinFilter = some s.skipBuiltinFilter ∧
      ∀ field : FieldName, orDefault (given.bind (named? (names .patterns) field.name))
        FieldSettings.ofToml? .default = some (s.field field) := by
  rw [FieldName.forall_iff]
  obtain ⟨skip, teams, date, time, league, includes, excludes⟩ := s
  refine (orDefault_record_eq_some_iff (fun _ => rfl) (ofToml?_nil _) fun given given' h => ?_).trans
    (and_congr_right fun _ => ?_)
  · rw [h "skip_builtin_filter" (by decide), h "teams" (by decide), h "date" (by decide),
      h "time" (by decide), h "league" (by decide), h "include" (by decide),
      h "exclude" (by decide)]
  · simp [-Bool.exists_bool, Option.bind_eq_some_iff, names, field, default, FieldName.name,
      FieldName.tag, Tag.name]

/-- How patterns are evaluated, or the defaults. -/
theorem EngineSettings.orDefault_eq_some_iff {given : Option Toml} {s : EngineSettings} :
    orDefault given ofToml? .default = some s ↔
      CanPass (othersOf? (names .engine) given) ∧
      orDefault (given.bind (named? (names .engine) "parallel_threshold"))
        (Toml.natural? UInt64.size) default.parallelThreshold = some s.parallelThreshold ∧
      orDefault (given.bind (named? (names .engine) "group_location"))
        GroupLocation.ofToml? default.groupLocation = some s.groupLocation ∧
      orDefault (given.bind (named? (names .engine) "max_complexity"))
        (fun value => (value.natural? UInt32.size).map some) default.maxComplexity =
          some s.maxComplexity ∧
      orDefault (given.bind (named? (names .engine) "max_repetition"))
        (fun value => (value.natural? UInt64.size).map some) default.maxRepetition =
          some s.maxRepetition := by
  obtain ⟨threshold, location, complexity, repetition⟩ := s
  refine (orDefault_record_eq_some_iff (fun _ => rfl) (ofToml?_nil _) fun given given' h => ?_).trans
    (and_congr_right fun _ => ?_)
  · rw [h "parallel_threshold" (by decide), h "group_location" (by decide),
      h "max_complexity" (by decide), h "max_repetition" (by decide)]
  · simp [Option.bind_eq_some_iff, names, default]

end Records

namespace Settings

/-- Both parts of the settings, each of which may be missing. -/
theorem ofToml?_eq_some_iff_parts {document : Toml.Members} {s : Settings} :
    ofToml? document = some s ↔
      CanPass (SettingsTable.root.others? document) ∧
      orDefault (document.lookup "patterns") PatternSettings.ofToml? .default =
        some s.patterns ∧
      orDefault (document.lookup "engine") EngineSettings.ofToml? .default = some s.engine := by
  obtain ⟨patterns, engine⟩ := s
  refine (Toml.fields?_bind_eq_some_iff fun given given' h => ?_).trans ?_
  · rw [h "patterns" (by decide), h "engine" (by decide)]
  · simp [Option.bind_eq_some_iff, named?, SettingsTable.others?, othersOf?,
      SettingsTable.value?, SettingsTable.names]

/-- **What a document gives**, laid over the defaults. -/
theorem ofToml?_eq_some_iff {document : Toml.Members} {s : Settings} :
    ofToml? document = some s ↔ Usable document ∧ s.Overlays document := by
  rw [ofToml?_eq_some_iff_parts, PatternSettings.orDefault_eq_some_iff,
    EngineSettings.orDefault_eq_some_iff]
  constructor
  · rintro ⟨hroot, ⟨hpatterns, hskip, hfields⟩, hengine, hthreshold, hlocation, hcomplexity,
      hrepetition⟩
    -- each table says what its own settings are, and nothing about those of others
    have hfield := fun name => (FieldSettings.orDefault_eq_some_iff name).mp (hfields name)
    refine ⟨fun table => ?_, fun setting => Setting.orDefault_eq_some_iff.mp ?_⟩
    · cases table with
      | root => exact hroot
      | patterns => exact hpatterns
      | field name => exact (hfield name).1
      | engine => exact hengine
    · cases setting with
      | skipBuiltinFilter => exact hskip
      | pattern name =>
        show orDefault _ _ (PatternSettings.default.field name).pattern = _
        rw [PatternSettings.field_default]
        exact (hfield name).2.1
      | enabled name =>
        show orDefault _ _ (PatternSettings.default.field name).enabled = _
        rw [PatternSettings.field_default]
        exact (hfield name).2.2
      | parallelThreshold => exact hthreshold
      | groupLocation => exact hlocation
      | maxComplexity => exact hcomplexity
      | maxRepetition => exact hrepetition
  · rintro ⟨htables, hsettings⟩
    have hgiven : ∀ {α : Type} (setting : Setting α), _ :=
      fun setting => Setting.orDefault_eq_some_iff.mpr (hsettings setting)
    refine ⟨htables .root, ⟨htables .patterns, hgiven .skipBuiltinFilter, fun name => ?_⟩,
      htables .engine, hgiven .parallelThreshold, hgiven .groupLocation, hgiven .maxComplexity,
      hgiven .maxRepetition⟩
    rw [FieldSettings.orDefault_eq_some_iff name, ← PatternSettings.field_default name]
    exact ⟨htables (.field name), hgiven (.pattern name), hgiven (.enabled name)⟩

/-- An empty table gives as much as a missing one, and one filled in part gives a part. -/
example : (Toml.parse "[patterns.teams]\n[patterns.league]\nenabled = false\n").bind ofToml? =
    some { default with patterns := { PatternSettings.default with league := ⟨"", false⟩ } } := by
  decide +kernel

end Settings

/-! ## Spelling out defaults -/

/-- Two documents give the same for a setting, or one of them gives the default and the other
nothing. -/
inductive Setting.SameOrDefault {α : Type} (setting : Setting α) :
    Option Toml → Option Toml → Prop
  | same (given : Option Toml) : SameOrDefault setting given given
  | spelledOut {given : Toml} (isDefault : setting.read? given = some (setting.get .default)) :
      SameOrDefault setting none (some given)
  | leftOut {given : Toml} (isDefault : setting.read? given = some (setting.get .default)) :
      SameOrDefault setting (some given) none

theorem Setting.SameOrDefault.orDefault_eq {α : Type} {setting : Setting α}
    {given given' : Option Toml} (h : setting.SameOrDefault given given') :
    orDefault given setting.read? (setting.get .default) =
      orDefault given' setting.read? (setting.get .default) := by
  cases h with
  | same => rfl
  | spelledOut hdefault => exact hdefault.symm
  | leftOut hdefault => exact hdefault

/-- Two documents that differ only in that one spells out defaults where the other gives
nothing. -/
structure DifferInDefaults (document other : Toml.Members) : Prop where
  settings : ∀ {α : Type} (setting : Setting α),
    setting.SameOrDefault (setting.given? document) (setting.given? other)
  others : ∀ table : SettingsTable, table.others? document = table.others? other

/-- Settings that are missing may be spelled out, with the tables around them. -/
example : DifferInDefaults [("engine", .table .header [])]
    [("engine", .table .header [("parallel_threshold", .integer 1000)]),
      ("patterns", .table .implied [("teams", .table .header [("enabled", .boolean true)])])] where
  settings setting := by
    cases setting with
    | enabled field =>
      cases field with
      | teams => exact .spelledOut rfl
      | _ => exact .same none
    | pattern field => cases field <;> exact .same none
    | parallelThreshold => exact .spelledOut rfl
    | _ => exact .same none
  others table := by
    cases table with
    | field name => cases name <;> rfl
    | _ => rfl

/-- **Documents that differ only in spelling out defaults give the same settings**, or none
of them gives any. -/
theorem DifferInDefaults.ofToml?_eq {document other : Toml.Members}
    (h : DifferInDefaults document other) :
    Settings.ofToml? document = Settings.ofToml? other := by
  refine Option.ext fun s => ?_
  rw [Settings.ofToml?_eq_some_iff, Settings.ofToml?_eq_some_iff]
  refine and_congr (forall_congr' fun table => by rw [h.others table]) ?_
  have hsetting : ∀ {α : Type} (setting : Setting α),
      setting.Overlaid document (setting.get s) ↔ setting.Overlaid other (setting.get s) := by
    intro α setting
    rw [← Setting.orDefault_eq_some_iff, ← Setting.orDefault_eq_some_iff,
      (h.settings setting).orDefault_eq]
  exact ⟨fun hall _ setting => (hsetting setting).mp (hall setting),
    fun hall _ setting => (hsetting setting).mpr (hall setting)⟩

/-! ## Loading -/

namespace Settings

/-- One of the limits is zero, so that it would refuse every pattern. -/
def LimitsToZero (s : Settings) : Prop :=
  s.engine.maxComplexity = some 0 ∨ s.engine.maxRepetition = some 0

/-- A document gives settings, whether they are then refused or not. -/
def Decodes (document : String) (s : Settings) : Prop :=
  (Toml.parse document).bind ofToml? = some s

theorem decodes_iff {document : String} {s : Settings} : Decodes document s ↔
    ∃ root, Toml.parse document = some root ∧ Usable root ∧ s.Overlays root := by
  rw [Decodes, Option.bind_eq_some_iff]
  exact exists_congr fun root => and_congr_right fun _ => ofToml?_eq_some_iff

/-- Settings are refused for limits of zero and for nothing else. -/
theorem Decodes.load_eq {document : String} {s : Settings} (h : Decodes document s) :
    (s.LimitsToZero ∧ ∃ limit, load document = .error (.zeroLimit limit)) ∨
      (¬s.LimitsToZero ∧ load document = .ok s) := by
  unfold load LimitsToZero validate
  rw [Decodes] at h
  simp only [h]
  by_cases hcomplexity : s.engine.maxComplexity = some 0
  · exact .inl ⟨.inl hcomplexity, .complexity, by simp only [if_pos hcomplexity]⟩
  · by_cases hrepetition : s.engine.maxRepetition = some 0
    · exact .inl ⟨.inr hrepetition, .repetition,
        by simp only [if_neg hcomplexity, if_pos hrepetition]⟩
    · exact .inr ⟨not_or.mpr ⟨hcomplexity, hrepetition⟩,
        by simp only [if_neg hcomplexity, if_neg hrepetition]⟩

theorem Decodes.of_load {document : String} {s : Settings} (h : load document = .ok s) :
    Decodes document s := by
  have hload := h
  unfold load at h
  split at h
  · cases h
  · next given hgiven =>
    rcases Decodes.load_eq (s := given) hgiven with ⟨-, limit, herror⟩ | ⟨-, hok⟩
    · cases herror.symm.trans hload
    · cases hok.symm.trans hload
      exact hgiven

/-- How a document is laid over the defaults. -/
structure OverlaysDefaults (document : String) : Prop where
  /-- What is loaded is what the document gives, and otherwise the defaults. -/
  loaded : ∀ s, load document = .ok s ↔
    (∃ root, Toml.parse document = some root ∧ Usable root ∧ s.Overlays root) ∧ ¬s.LimitsToZero
  /-- Whether the document spells out defaults does not matter. -/
  spelledOut : ∀ other root root', Toml.parse document = some root →
    Toml.parse other = some root' → DifferInDefaults root root' → load document = load other
  /-- A document that gives settings is refused for limits of zero and for nothing else. -/
  refused : ∀ s, Decodes document s → ((∃ e, load document = .error e) ↔ s.LimitsToZero)

/-- **A document is laid over the defaults.** -/
theorem overlaysDefaults (document : String) : OverlaysDefaults document where
  loaded s := by
    rw [← decodes_iff]
    constructor
    · intro hload
      have hdecodes := Decodes.of_load hload
      rcases hdecodes.load_eq with ⟨-, limit, herror⟩ | ⟨hzero, -⟩
      · cases herror.symm.trans hload
      · exact ⟨hdecodes, hzero⟩
    · rintro ⟨hdecodes, hzero⟩
      rcases hdecodes.load_eq with ⟨hzero', -⟩ | ⟨-, hload⟩
      · exact absurd hzero' hzero
      · exact hload
  -- only the values that are given are compared, not how they are laid out
  spelledOut other root root' hroot hroot' hdiffer := by
    have hgiven : (Toml.parse document).bind ofToml? = (Toml.parse other).bind ofToml? := by
      rw [hroot, hroot']
      exact hdiffer.ofToml?_eq
    unfold load
    rw [hgiven]
  -- what is read is refused for a limit of zero and for nothing else
  refused s hdecodes := by
    rcases hdecodes.load_eq with ⟨hzero, limit, herror⟩ | ⟨hzero, hload⟩
    · exact iff_of_true ⟨_, herror⟩ hzero
    · refine iff_of_false ?_ hzero
      rintro ⟨e, herror⟩
      cases hload.symm.trans herror

end Settings

end StreamNames
