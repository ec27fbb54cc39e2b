import StreamNames.Settings.Basic
import StreamNames.Verdict.Record

/-!
# Compiled fields

All patterns of the settings, compiled once for a batch. A pattern that is refused takes
part in nothing, but a refused pattern that streams must match is matched by none.

- `FieldReport`: whether a field's pattern is accepted.
- `FieldSet.compile`: the fields of some settings.
-/

namespace StreamNames

/-- What became of one field: nothing if it is switched off or blank, else its pattern or
why it is refused. -/
structure FieldReport where
  tag : Tag
  enabled : Bool
  result : Option (Except PatternError CompiledPattern)

namespace FieldReport

/-- What becomes of a pattern. -/
def ofPattern (limits : PatternLimits) (p : Pattern) : FieldReport :=
  ⟨p.tag, p.enabled,
    if p.isConfigured then some (CompiledPattern.compile limits p.source) else none⟩

/-- Whether a field's pattern is refused. -/
def isRejected (r : FieldReport) : Bool :=
  match r.result with
  | some (.error _) => true
  | _ => false

/-- The pattern of a field, if it has one that is accepted. -/
def compiled? (r : FieldReport) : Option CompiledPattern :=
  match r.result with
  | some (.ok p) => some p
  | _ => none

/-- Whether a field's pattern matches a text, if the field has a pattern. One that is
refused matches nothing. -/
def matches? (r : FieldReport) (text : String) : Option Bool :=
  r.result.map fun
    | .ok p => p.isMatch text
    | .error _ => false

end FieldReport

/-- The fields of some settings. -/
structure FieldSet where
  extraction : List FieldReport
  includes : FieldReport
  excludes : FieldReport
  groupLocation : GroupLocation

namespace FieldSet

/-- Compiles all patterns of some settings. -/
def compile (patterns : PatternSettings) (engine : EngineSettings) : FieldSet :=
  { extraction := patterns.extractionPatterns.map (.ofPattern engine.limits)
    includes := .ofPattern engine.limits patterns.includePattern
    excludes := .ofPattern engine.limits patterns.excludePattern
    groupLocation := engine.groupLocation }

/-- What became of each field, in the order of the settings. -/
def reports (s : FieldSet) : List FieldReport := s.extraction ++ [s.includes, s.excludes]

/-- Whether some pattern is refused. -/
def hasErrors (s : FieldSet) : Bool := s.reports.any (·.isRejected)

/-- The ranges that a field picks out of a name. One without a group's name is given the
tag's. -/
def fieldRanges (location : GroupLocation) (name : String) (r : FieldReport) :
    List MatchRange :=
  match r.compiled? with
  | some p => (p.matchRanges location name).map fun range =>
    { range with group := some (range.group.getD r.tag.name) }
  | none => []

/-- The ranges that all fields pick out of a name, field by field. -/
def extractionRanges (s : FieldSet) (name : String) : List MatchRange :=
  s.extraction.flatMap (fieldRanges s.groupLocation name)

/-- What the pattern that streams must match says of a name. -/
def includeMatch (s : FieldSet) (name : String) : IncludeMatch :=
  match s.includes.matches? name with
  | some b => .ofBool b
  | none => .unconfigured

/-- Whether the pattern that streams must not match matches a name. -/
def excludeMatch (s : FieldSet) (name : String) : Bool :=
  (s.excludes.matches? name).getD false

end FieldSet

end StreamNames
