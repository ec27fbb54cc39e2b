import StreamNames.Batch.Report
import StreamNames.Proofs.Pattern.Acceptance

/-!
# Fields compiled once

A batch compiles the patterns of its fields once, under limits. What it finds out about a
stream is what each pattern finds on its own, without limits: a field takes part if it is
switched on, not blank and accepted, and fields do not depend on one another.

- `Pattern.isAccepted`: whether a field takes part.
- `RefinesOneShot`: a record has what the patterns find one by one.
- `PatternSettings.without`: the settings with one field switched off; what a refused field
  adds to a record is compared with these.
- `extractionRanges_without`: it adds no range, wherever groups are located.
- `classify_refines_oneShot`: the record of a stream.
-/

namespace StreamNames

open PatternSettings (toPattern)

/-! ## Fields that take part -/

/-- Whether a pattern takes part in a batch: it is in use and accepted within the limits. -/
def Pattern.isAccepted (limits : PatternLimits) (p : Pattern) : Bool :=
  p.isConfigured && (CompiledPattern.compile limits p.source).isOk

/-- Whether a pattern is in use but refused. -/
def Pattern.isRejected (limits : PatternLimits) (p : Pattern) : Bool :=
  p.isConfigured && !(CompiledPattern.compile limits p.source).isOk

theorem Pattern.isConfigured_iff {p : Pattern} :
    p.isConfigured = true ↔ p.enabled = true ∧ Text.isBlank p.source = false := by
  rw [isConfigured, Bool.and_eq_true, Bool.not_eq_true']

/-- A pattern that is refused does not take part. -/
theorem Pattern.isAccepted_eq_false_of_isRejected {limits : PatternLimits} {p : Pattern}
    (h : p.isRejected limits) : p.isAccepted limits = false := by
  unfold isRejected at h
  unfold isAccepted
  rw [Bool.and_eq_true] at h
  rw [Bool.and_eq_false_iff]
  exact .inr (by simpa using h.2)

/-- A range as a field shows it: one without a group's name gets the field's tag. -/
def MatchRange.shownBy (tag : Tag) (r : MatchRange) : MatchRange :=
  match r.group with
  | none => { r with group := some tag.name }
  | some _ => r

/-- A field is out of use, refused, or accepted in the form that it has without limits. -/
theorem FieldReport.ofPattern_cases (limits : PatternLimits) (p : Pattern) :
    (p.isConfigured = false ∧ p.isAccepted limits = false ∧
      (ofPattern limits p).result = none) ∨
    (p.isConfigured = true ∧ p.isAccepted limits = false ∧
      ∃ e, (ofPattern limits p).result = some (.error e)) ∨
    (p.isConfigured = true ∧ p.isAccepted limits = true ∧
      ∃ c, StreamNames.compiled? p.source = some c ∧
        (ofPattern limits p).result = some (.ok c)) := by
  unfold ofPattern Pattern.isAccepted
  cases hconfigured : p.isConfigured with
  | false => exact .inl ⟨rfl, rfl, rfl⟩
  | true =>
    cases hcompile : CompiledPattern.compile limits p.source with
    | error e => exact .inr (.inl ⟨rfl, rfl, e, rfl⟩)
    | ok c => exact .inr (.inr ⟨rfl, rfl, c, compiled?_of_compile_eq_ok hcompile, rfl⟩)

/-- A field shows as refused what is in use but refused. -/
theorem FieldReport.isRejected_ofPattern (limits : PatternLimits) (p : Pattern) :
    (ofPattern limits p).isRejected = p.isRejected limits := by
  unfold isRejected ofPattern Pattern.isRejected
  cases p.isConfigured with
  | false => rfl
  | true => cases CompiledPattern.compile limits p.source <;> rfl

namespace FieldSet

/-- The ranges that a field picks out are those of its pattern, if that takes part. -/
theorem fieldRanges_ofPattern (limits : PatternLimits) (p : Pattern) (name : String) :
    fieldRanges .exact name (.ofPattern limits p) =
      if p.isAccepted limits then (getMatchRanges p.source name).map (.shownBy p.tag)
      else [] := by
  have htag : (FieldReport.ofPattern limits p).tag = p.tag := rfl
  rw [fieldRanges, FieldReport.compiled?, htag]
  rcases FieldReport.ofPattern_cases limits p with ⟨-, haccepted, hresult⟩ |
    ⟨-, haccepted, e, hresult⟩ | ⟨-, haccepted, c, hcompiled, hresult⟩ <;>
    rw [hresult, haccepted]
  · rfl
  · rfl
  · -- both searches run the same compiled pattern
    rw [if_pos rfl, getMatchRanges, hcompiled]
    refine List.map_congr_left fun r _ => ?_
    obtain ⟨start, stop, group⟩ := r
    cases group <;> rfl

/-- A field with a pattern in use matches what its pattern matches, if that takes part. -/
theorem matches?_ofPattern (limits : PatternLimits) (p : Pattern) (name : String) :
    (FieldReport.ofPattern limits p).matches? name =
      if p.isConfigured then some (p.isAccepted limits && testMatch p.source name)
      else none := by
  rw [FieldReport.matches?]
  rcases FieldReport.ofPattern_cases limits p with ⟨hconfigured, haccepted, hresult⟩ |
    ⟨hconfigured, haccepted, e, hresult⟩ | ⟨hconfigured, haccepted, c, hcompiled, hresult⟩ <;>
    rw [hresult, hconfigured, haccepted]
  · rfl
  · rfl
  · rw [testMatch, hcompiled]
    rfl

end FieldSet

/-! ## One field more or less -/

/-- The settings with one field switched off. -/
def PatternSettings.without (s : PatternSettings) : Tag → PatternSettings
  | .teams => { s with teams := { s.teams with enabled := false } }
  | .date => { s with date := { s.date with enabled := false } }
  | .time => { s with time := { s.time with enabled := false } }
  | .league => { s with league := { s.league with enabled := false } }
  | .includes => { s with includes := { s.includes with enabled := false } }
  | .excludes => { s with excludes := { s.excludes with enabled := false } }
  | .team1 | .team2 => s

/-- The pattern in a field is in use but refused. -/
def PatternSettings.Rejects (s : PatternSettings) (limits : PatternLimits) (tag : Tag) : Prop :=
  ∃ field, s.field? tag = some field ∧ (toPattern tag field).isRejected limits

/-- A pattern of the settings is that of its tag's field. -/
theorem PatternSettings.exists_field_of_mem {s : PatternSettings} {p : Pattern}
    (hp : p ∈ s.allPatterns) : ∃ field, s.field? p.tag = some field ∧ p = toPattern p.tag field := by
  simp only [allPatterns, extractionPatterns, List.cons_append, List.nil_append, List.mem_cons,
    List.not_mem_nil, or_false] at hp
  rcases hp with rfl | rfl | rfl | rfl | rfl | rfl <;> exact ⟨_, rfl, rfl⟩

/-- A pattern that is switched off is not accepted. -/
@[simp] theorem isAccepted_toPattern_disabled (limits : PatternLimits) (tag : Tag)
    (field : FieldSettings) :
    (toPattern tag { field with enabled := false }).isAccepted limits = false :=
  rfl

/-- What became of the other fields does not depend on a field. -/
theorem reports_without (s : PatternSettings) (engine : EngineSettings) (tag : Tag) :
    (FieldSet.compile (s.without tag) engine).reports.filter (·.tag ≠ tag) =
      (FieldSet.compile s engine).reports.filter (·.tag ≠ tag) := by
  cases tag <;> rfl

/-- The extraction fields that are accepted stay the same without one that is refused. -/
theorem filter_isAccepted_without {s : PatternSettings} {limits : PatternLimits} {tag : Tag}
    (h : s.Rejects limits tag) :
    (s.without tag).extractionPatterns.filter (·.isAccepted limits) =
      s.extractionPatterns.filter (·.isAccepted limits) := by
  obtain ⟨field, hfield, hrejected⟩ := h
  have hnot := Pattern.isAccepted_eq_false_of_isRejected hrejected
  -- the field at hand is left out of either list, and the others are the same
  cases tag <;> cases hfield <;>
    simp [PatternSettings.without, PatternSettings.extractionPatterns, List.filter_cons, hnot]

/-- A field that does not take part picks nothing out, wherever groups are located. -/
theorem fieldRanges_of_isAccepted_eq_false {limits : PatternLimits} {p : Pattern}
    (h : p.isAccepted limits = false) (location : GroupLocation) (name : String) :
    FieldSet.fieldRanges location name (.ofPattern limits p) = [] := by
  rw [FieldSet.fieldRanges, FieldReport.compiled?]
  rcases FieldReport.ofPattern_cases limits p with ⟨-, -, hresult⟩ | ⟨-, -, e, hresult⟩ |
    ⟨-, haccepted, -⟩
  · rw [hresult]
  · rw [hresult]
  · rw [h] at haccepted
    cases haccepted

/-- The ranges of a name are those of the extraction fields that take part. -/
theorem extractionRanges_compile_eq_filter (patterns : PatternSettings) (engine : EngineSettings)
    (name : String) :
    (FieldSet.compile patterns engine).extractionRanges name =
      (patterns.extractionPatterns.filter (·.isAccepted engine.limits)).flatMap fun p =>
        FieldSet.fieldRanges engine.groupLocation name (.ofPattern engine.limits p) := by
  show (patterns.extractionPatterns.map (FieldReport.ofPattern engine.limits)).flatMap
    (FieldSet.fieldRanges engine.groupLocation name) = _
  rw [List.flatMap_map]
  induction patterns.extractionPatterns with
  | nil => rfl
  | cons p ps ih =>
    rw [List.flatMap_cons, ih, List.filter_cons]
    cases haccepted : p.isAccepted engine.limits with
    | false =>
      -- a field that is not accepted has no ranges, so leaving it out changes nothing
      rw [fieldRanges_of_isAccepted_eq_false haccepted]
      rfl
    | true => rw [if_pos rfl, List.flatMap_cons]

/-- The ranges of a name stay the same without a field that is refused. -/
theorem extractionRanges_without {patterns : PatternSettings} {engine : EngineSettings}
    {tag : Tag} (h : patterns.Rejects engine.limits tag) (name : String) :
    (FieldSet.compile (patterns.without tag) engine).extractionRanges name =
      (FieldSet.compile patterns engine).extractionRanges name := by
  rw [extractionRanges_compile_eq_filter, extractionRanges_compile_eq_filter,
    filter_isAccepted_without h]

/-! ## The record of a stream -/

/-- A record has what the patterns of some settings find in a stream one by one. -/
structure RefinesOneShot (patterns : PatternSettings) (limits : PatternLimits) (stream : Stream)
    (record : Record) : Prop where
  /-- The ranges are those of the extraction fields that take part, in the order of teams,
  date, time and league. -/
  ranges : record.extractionRanges =
    ([toPattern .teams patterns.teams, toPattern .date patterns.date,
      toPattern .time patterns.time, toPattern .league patterns.league].filter
        (·.isAccepted limits)).flatMap fun p =>
          (getMatchRanges p.source stream.name).map (.shownBy p.tag)
  /-- Without a pattern to match, nothing is required; one that is refused is matched by no
  stream. -/
  includes : record.includeMatch =
    if !patterns.includePattern.isConfigured then .unconfigured
    else if !patterns.includePattern.isAccepted limits then .notMatched
    else if testMatch patterns.includes.pattern stream.name then .matched
    else .notMatched
  /-- A stream is dropped by a pattern that takes part and matches it. -/
  excludes : record.excludeMatch = true ↔
    patterns.excludePattern.isAccepted limits ∧ testMatch patterns.excludes.pattern stream.name
  /-- What the built-in filter said is kept. -/
  reason : record.builtinFilterReason = stream.builtinFilterReason

theorem extractionRanges_compile (patterns : PatternSettings) (engine : EngineSettings)
    (name : String) :
    (FieldSet.compile patterns { engine with groupLocation := .exact }).extractionRanges name =
      (patterns.extractionPatterns.filter (·.isAccepted engine.limits)).flatMap fun p =>
        (getMatchRanges p.source name).map (.shownBy p.tag) := by
  rw [extractionRanges_compile_eq_filter, List.flatMap_def, List.flatMap_def]
  refine congrArg List.flatten (List.map_congr_left fun p hp => ?_)
  rw [FieldSet.fieldRanges_ofPattern, if_pos (List.mem_filter.mp hp).2]

theorem includeMatch_compile (patterns : PatternSettings) (engine : EngineSettings)
    (name : String) :
    (FieldSet.compile patterns engine).includeMatch name =
      if !patterns.includePattern.isConfigured then .unconfigured
      else if !patterns.includePattern.isAccepted engine.limits then .notMatched
      else if testMatch patterns.includes.pattern name then .matched
      else .notMatched := by
  have hmatches : (FieldSet.compile patterns engine).includes.matches? name = _ :=
    FieldSet.matches?_ofPattern engine.limits patterns.includePattern name
  -- a refused pattern matches no stream, and only a missing one is no condition
  rw [FieldSet.includeMatch, hmatches]
  cases patterns.includePattern.isConfigured with
  | false => rfl
  | true =>
    cases patterns.includePattern.isAccepted engine.limits with
    | false => rfl
    | true => rfl

theorem excludeMatch_compile (patterns : PatternSettings) (engine : EngineSettings)
    (name : String) :
    (FieldSet.compile patterns engine).excludeMatch name =
      (patterns.excludePattern.isAccepted engine.limits &&
        testMatch patterns.excludes.pattern name) := by
  have hmatches := FieldSet.matches?_ofPattern engine.limits patterns.excludePattern name
  show ((FieldReport.ofPattern engine.limits patterns.excludePattern).matches? name).getD
    false = _
  rw [hmatches]
  cases hconfigured : patterns.excludePattern.isConfigured with
  | false => rw [Pattern.isAccepted, hconfigured]; rfl
  | true => rfl

/-- A pattern to match that is refused is matched by no name. -/
theorem includeMatch_of_rejects {patterns : PatternSettings} {engine : EngineSettings}
    (h : patterns.Rejects engine.limits .includes) (name : String) :
    (FieldSet.compile patterns engine).includeMatch name = .notMatched := by
  obtain ⟨_, ⟨⟩, hrejected⟩ := h
  have hnot := Pattern.isAccepted_eq_false_of_isRejected hrejected
  have hconfigured := (Bool.and_eq_true_iff.mp hrejected).1
  rw [includeMatch_compile, PatternSettings.includePattern, hnot, hconfigured]
  rfl

/-- Neither is a pattern not to match. -/
theorem excludeMatch_of_rejects {patterns : PatternSettings} {engine : EngineSettings}
    (h : patterns.Rejects engine.limits .excludes) (name : String) :
    (FieldSet.compile patterns engine).excludeMatch name = false := by
  obtain ⟨_, ⟨⟩, hrejected⟩ := h
  have hnot := Pattern.isAccepted_eq_false_of_isRejected hrejected
  rw [excludeMatch_compile, PatternSettings.excludePattern, hnot, Bool.false_and]

/-- **A batch finds in a stream what its patterns find one by one**, and a pattern that is
refused changes nothing that another field contributes: without it the ranges, what the
other filter says and what became of the other fields are the same. -/
theorem classify_refines_oneShot (patterns : PatternSettings) (engine : EngineSettings)
    (stream : Stream) :
    let settings := { engine with groupLocation := .exact }
    let record := (FieldSet.compile patterns settings).classify stream
    RefinesOneShot patterns engine.limits stream record ∧
      ∀ tag, patterns.Rejects engine.limits tag →
        let others := FieldSet.compile (patterns.without tag) settings
        (others.classify stream).extractionRanges = record.extractionRanges ∧
        (tag ≠ .includes → (others.classify stream).includeMatch = record.includeMatch) ∧
        (others.classify stream).excludeMatch = record.excludeMatch ∧
        others.reports.filter (·.tag ≠ tag) =
          (FieldSet.compile patterns settings).reports.filter (·.tag ≠ tag) := by
  intro settings record
  have hranges := extractionRanges_compile patterns engine stream.name
  have hincludes := includeMatch_compile patterns settings stream.name
  have hexcludes := excludeMatch_compile patterns settings stream.name
  refine ⟨⟨hranges, hincludes, ?excludes, rfl⟩, fun tag hrejects => ⟨?_, ?_, ?_, ?_⟩⟩
  case excludes =>
    show (FieldSet.compile patterns settings).excludeMatch stream.name = true ↔ _
    rw [hexcludes, Bool.and_eq_true]
    rfl
  · show (FieldSet.compile (patterns.without tag) settings).extractionRanges stream.name = _
    rw [extractionRanges_compile, filter_isAccepted_without hrejects]
    exact hranges.symm
  · intro hne
    show (FieldSet.compile (patterns.without tag) settings).includeMatch stream.name =
      (FieldSet.compile patterns settings).includeMatch stream.name
    -- only the field for matching streams is asked here, and it is another one
    cases tag <;> first | rfl | exact absurd rfl hne
  · show (FieldSet.compile (patterns.without tag) settings).excludeMatch stream.name =
      (FieldSet.compile patterns settings).excludeMatch stream.name
    rw [hexcludes, excludeMatch_compile]
    -- if it is this field that is left out, it was refused and let every stream pass
    obtain ⟨field, hfield, hrejected⟩ := hrejects
    have hnot := Pattern.isAccepted_eq_false_of_isRejected hrejected
    cases tag with
    | excludes =>
      cases hfield
      show (false && _) = ((toPattern .excludes patterns.excludes).isAccepted
        engine.limits && _)
      rw [hnot]
      rfl
    | _ => rfl
  · exact reports_without patterns settings tag

end StreamNames
