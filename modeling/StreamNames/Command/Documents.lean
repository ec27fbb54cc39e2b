import StreamNames.Batch.Report
import StreamNames.Json.Value

/-!
# Results as JSON documents

Results are printed as JSON documents. What is missing is left out, except for the reason
of the built-in filter, for which null is written.
-/

namespace StreamNames

namespace Json

/-- A member that is left out where there is no value. -/
def memberOf? (name : String) (value : Option String) : List (String × Json) :=
  match value with
  | some text => [(name, .string text)]
  | none => []

/-- A text or null. -/
def ofText? : Option String → Json
  | some text => .string text
  | none => .null

end Json

/-- The members that tell whether a pattern is accepted, and if not, why. -/
def acceptance (result : Except PatternError CompiledPattern) : List (String × Json) :=
  match result with
  | .ok _ => [("valid", .bool true)]
  | .error e => [("valid", .bool false), ("error", .string e.message)]

/-- Whether a pattern is accepted, with its text in both dialects and its named groups. -/
def validationDocument (limits : PatternLimits) (pattern : String) : Json :=
  let result := CompiledPattern.compile limits pattern
  let names := match result with
    | .ok p => p.groupNames
    | .error _ => []
  let groups := if names.isEmpty then [] else [("group_names", .array (names.map .string))]
  .object ([("pattern", .string pattern), ("internal", .string (toInternal pattern))]
    ++ acceptance result ++ groups)

/-- What became of a field. -/
def FieldReport.toJson (r : FieldReport) : Json :=
  let result := match r.result with
    | some result => [("result", .object (acceptance result))]
    | none => []
  .object ([("tag", .string r.tag.name), ("enabled", .bool r.enabled)] ++ result)

/-- A range. -/
def MatchRange.toJson (r : MatchRange) : Json :=
  .object ([("start", .number r.start), ("end", .number r.stop)]
    ++ Json.memberOf? "group" r.group)

/-- A segment. -/
def Segment.toJson (s : Segment) : Json :=
  .object ([("text", .string s.text)] ++ Json.memberOf? "group" s.group
    ++ [("start", .number s.start), ("end", .number s.stop)])

/-- What is known about a stream. -/
def Record.toJson (r : Record) : Json :=
  .object [("extraction_ranges", .array (r.extractionRanges.map MatchRange.toJson)),
    ("include_match", .string r.includeMatch.name), ("exclude_match", .bool r.excludeMatch),
    ("builtin_filter_reason", Json.ofText? r.builtinFilterReason)]

/-- The statistics of a batch. -/
def Stats.toJson (s : Stats) : Json :=
  .object [("total", .number s.total.toNat), ("included", .number s.included.toNat),
    ("excluded", .number s.excluded.toNat), ("builtin_flagged", .number s.builtinFlagged.toNat),
    ("with_extractions", .number s.withExtractions.toNat)]

/-- The result for a stream. -/
def StreamReport.toJson (r : StreamReport) : Json :=
  .object [("name", .string r.name), ("segments", .array (r.segments.map Segment.toJson)),
    ("classification", r.record.toJson), ("verdict", .string r.verdict.name),
    ("would_be_builtin_filtered", .bool r.wouldBeBuiltinFiltered)]

/-- The results for a batch. -/
def BatchReport.toJson (r : BatchReport) : Json :=
  .object [("items", .array (r.items.map StreamReport.toJson)), ("stats", r.stats.toJson)]

/-- The statistics of a batch with the built-in filter on and off. -/
def comparisonDocument (applied skipped : Stats) : Json :=
  .object [("builtin_filter_applied", applied.toJson),
    ("builtin_filter_skipped", skipped.toJson)]

end StreamNames
