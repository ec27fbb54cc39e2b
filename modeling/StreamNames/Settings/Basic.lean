import StreamNames.Pattern.Extraction

/-!
# Settings

- `Settings`: the patterns in use and how they are evaluated.
- `Settings.default`: what is used where nothing else is given.
- `Settings.validate`: refuses limits of zero.
-/

namespace StreamNames

/-- The pattern in one field of the settings. -/
structure FieldSettings where
  pattern : String
  enabled : Bool
  deriving DecidableEq, Repr

/-- Whether a field is in use if this is not said. -/
def FieldSettings.enabledByDefault : Bool := true

/-- A field without a pattern. -/
def FieldSettings.default : FieldSettings := ⟨"", enabledByDefault⟩

/-- The patterns in use: four that pick out parts of names, one that streams must match and
one that they must not. -/
structure PatternSettings where
  skipBuiltinFilter : Bool
  teams : FieldSettings
  date : FieldSettings
  time : FieldSettings
  league : FieldSettings
  includes : FieldSettings
  excludes : FieldSettings
  deriving DecidableEq, Repr

namespace PatternSettings

/-- Whether the built-in filter is switched off if this is not said. -/
def skipByDefault : Bool := false

/-- No patterns. -/
def default : PatternSettings :=
  ⟨skipByDefault, .default, .default, .default, .default, .default, .default⟩

/-- The field for a tag. Teams one and two have no field of their own. -/
def field? (s : PatternSettings) : Tag → Option FieldSettings
  | .teams => some s.teams
  | .date => some s.date
  | .time => some s.time
  | .league => some s.league
  | .includes => some s.includes
  | .excludes => some s.excludes
  | .team1 | .team2 => none

/-- The pattern in a field. -/
def toPattern (tag : Tag) (field : FieldSettings) : Pattern :=
  ⟨field.pattern, field.enabled, tag⟩

/-- The patterns that pick out parts of names. Of two that claim the same character, the
first of this list has it. -/
def extractionPatterns (s : PatternSettings) : List Pattern :=
  [toPattern .teams s.teams, toPattern .date s.date, toPattern .time s.time,
    toPattern .league s.league]

/-- The pattern that streams must match. -/
def includePattern (s : PatternSettings) : Pattern := toPattern .includes s.includes

/-- The pattern that streams must not match. -/
def excludePattern (s : PatternSettings) : Pattern := toPattern .excludes s.excludes

/-- All patterns. -/
def allPatterns (s : PatternSettings) : List Pattern :=
  s.extractionPatterns ++ [s.includePattern, s.excludePattern]

end PatternSettings

/-- How patterns are evaluated. Batches of at least `parallelThreshold` streams may be
spread over several processors, which changes no result. -/
structure EngineSettings where
  parallelThreshold : Nat
  groupLocation : GroupLocation
  maxComplexity : Option Nat
  maxRepetition : Option Nat
  deriving DecidableEq, Repr

namespace EngineSettings

/-- From how many streams on a batch may be spread if this is not said. -/
def thresholdByDefault : Nat := 1000

/-- Exact locations and no limits. -/
def default : EngineSettings := ⟨thresholdByDefault, .default, none, none⟩

/-- The limits on patterns. -/
def limits (s : EngineSettings) : PatternLimits := ⟨s.maxComplexity, s.maxRepetition⟩

end EngineSettings

/-- All settings. -/
structure Settings where
  patterns : PatternSettings
  engine : EngineSettings
  deriving DecidableEq, Repr

namespace Settings

/-- What is used where nothing else is given. -/
def default : Settings := ⟨.default, .default⟩

/-- A limit that would refuse every pattern. -/
inductive ZeroLimit where
  | complexity | repetition
  deriving DecidableEq, Repr

/-- The wording for a limit of zero. -/
def ZeroLimit.message : ZeroLimit → String
  | complexity =>
    "engine.max_complexity must be greater than 0 (omit it to disable the check)"
  | repetition =>
    "engine.max_repetition must be greater than 0 (omit it to disable the check)"

/-- Refuses limits of zero. -/
def validate (s : Settings) : Except ZeroLimit Unit :=
  if s.engine.maxComplexity = some 0 then .error .complexity
  else if s.engine.maxRepetition = some 0 then .error .repetition
  else .ok ()

end Settings

end StreamNames
