import StreamNames.Batch.Report
import StreamNames.Proofs.Pattern.Relocation

/-!
# Moved highlights

The settings say how groups are located. This decides where highlights are shown and
nothing else: no verdict and no counter of a batch depends on it.

- `Record.Alike`: records that differ in the places of their ranges alone. Their verdicts
  are the same, and so are the counters of batches of them (`aggregate_eq_of_alike`).
- `alike_classify`: the two ways to locate groups find out the same about a stream.
- `location_moves_highlights_only`: so they report the same on a batch.
-/

namespace StreamNames

/-! ## Records -/

/-- Two records on streams of the same name, where ranges moved. -/
structure Record.Alike (name : String) (r s : Record) : Prop where
  extractionRanges : List.Forall₂ (MatchRange.Alike name) r.extractionRanges s.extractionRanges
  includeMatch : s.includeMatch = r.includeMatch
  excludeMatch : s.excludeMatch = r.excludeMatch
  builtinFilterReason : s.builtinFilterReason = r.builtinFilterReason

namespace MatchRange

theorem Alike.isEmpty_eq {name : String} {r s : MatchRange} (h : r.Alike name s) :
    s.isEmpty = r.isEmpty := by
  rw [isEmpty, isEmpty, h.length]

theorem any_not_isEmpty_eq_of_alike {name : String} {rs ss : List MatchRange}
    (h : List.Forall₂ (Alike name) rs ss) :
    ss.any (!·.isEmpty) = rs.any (!·.isEmpty) := by
  induction h with
  | nil => rfl
  | cons hr _ ih => rw [List.any_cons, List.any_cons, hr.isEmpty_eq, ih]

end MatchRange

namespace Record.Alike

variable {name : String} {r s : Record}

theorem isBuiltinFlagged_eq (h : r.Alike name s) : s.isBuiltinFlagged = r.isBuiltinFlagged := by
  rw [isBuiltinFlagged, isBuiltinFlagged, h.builtinFilterReason]

theorem verdict_eq (h : r.Alike name s) (skip : Bool) : s.verdict skip = r.verdict skip := by
  rw [verdict, verdict, h.isBuiltinFlagged_eq, h.excludeMatch, h.includeMatch]

theorem wouldBeBuiltinFiltered_eq (h : r.Alike name s) (skip : Bool) :
    s.wouldBeBuiltinFiltered skip = r.wouldBeBuiltinFiltered skip := by
  rw [wouldBeBuiltinFiltered, wouldBeBuiltinFiltered, h.isBuiltinFlagged_eq, h.verdict_eq]

/-- Ranges that moved have as many characters, so none becomes empty. -/
theorem hasExtractions_eq (h : r.Alike name s) : s.hasExtractions = r.hasExtractions :=
  MatchRange.any_not_isEmpty_eq_of_alike h.extractionRanges

/-- Records that differ in places alone are counted alike. -/
theorem add_eq (h : r.Alike name s) (stats : Stats) (skip : Bool) :
    stats.add s skip = stats.add r skip := by
  unfold Stats.add
  rw [h.verdict_eq, h.isBuiltinFlagged_eq, h.hasExtractions_eq]

end Record.Alike

/-- **Statistics do not depend on the places of ranges**, one record after another. -/
theorem aggregate_eq_of_alike {rs ss : List Record} (skip : Bool)
    (h : List.Forall₂ (fun r s => ∃ name, Record.Alike name r s) rs ss) :
    aggregate ss skip = aggregate rs skip := by
  unfold aggregate
  -- the counters before a record are the same, whatever they are
  generalize Stats.zero = stats
  induction h generalizing stats with
  | nil => rfl
  | cons hr _ ih =>
    obtain ⟨name, halike⟩ := hr
    rw [List.foldl_cons, List.foldl_cons, halike.add_eq, ih]

/-! ## Fields -/

namespace FieldSet

/-- The fields, where groups are located in some way. -/
def locating (s : FieldSet) (location : GroupLocation) : FieldSet :=
  { s with groupLocation := location }

/-- What a field picks out is moved range by range. Ranges without a group's name are given
the same tag. -/
theorem alike_fieldRanges (name : String) (r : FieldReport) :
    List.Forall₂ (MatchRange.Alike name) (fieldRanges .exact name r)
      (fieldRanges .substringSearch name r) := by
  unfold fieldRanges
  split
  · next p _ =>
    refine List.rel_map ?_ (p.locatedAlike name).alike
    intro exact moved h
    refine ⟨?_, h.length, h.characters, h.not_later⟩
    show some (moved.group.getD r.tag.name) = some (exact.group.getD r.tag.name)
    rw [h.group]
  · exact .nil

/-- **What is found out about a stream is the same**, except for the places of ranges. -/
theorem alike_classify (s : FieldSet) (stream : Stream) :
    ((s.locating .exact).classify stream).Alike stream.name
      ((s.locating .substringSearch).classify stream) where
  extractionRanges := by
    -- the fields are the same and in the same order; only their ranges moved
    refine List.rel_flatMap (R := Eq) (List.forall₂_same.mpr fun _ _ => rfl) ?_
    rintro field _ rfl
    exact alike_fieldRanges stream.name field
  includeMatch := rfl
  excludeMatch := rfl
  builtinFilterReason := rfl

end FieldSet

/-! ## Batches -/

/-- Two results for the same stream, where highlights moved. -/
structure StreamReport.Alike (r s : StreamReport) : Prop where
  name : s.name = r.name
  record : r.record.Alike r.name s.record
  verdict : s.verdict = r.verdict
  wouldBeBuiltinFiltered : s.wouldBeBuiltinFiltered = r.wouldBeBuiltinFiltered

/-- Two reports on the same batch, where highlights moved. -/
structure BatchReport.Alike (r s : BatchReport) : Prop where
  items : List.Forall₂ StreamReport.Alike r.items s.items
  stats : s.stats = r.stats

namespace FieldSet

theorem stats_locating (s : FieldSet) (streams : List Stream) (skip : Bool) :
    (s.locating .substringSearch).stats streams skip =
      (s.locating .exact).stats streams skip := by
  refine aggregate_eq_of_alike skip ?_
  rw [List.forall₂_map_left_iff, List.forall₂_map_right_iff]
  exact List.forall₂_same.mpr fun stream _ => ⟨stream.name, s.alike_classify stream⟩

/-- The statistics of a report are those of the records alone. -/
theorem stats_evaluate (s : FieldSet) (streams : List Stream) (skip : Bool) :
    (s.evaluate streams skip).stats = s.stats streams skip := by
  rw [evaluate, stats, List.map_map]
  rfl

theorem alike_evaluate (s : FieldSet) (streams : List Stream) (skip : Bool) :
    ((s.locating .exact).evaluate streams skip).Alike
      ((s.locating .substringSearch).evaluate streams skip) where
  items := by
    show List.Forall₂ _ (streams.map _) (streams.map _)
    rw [List.forall₂_map_left_iff, List.forall₂_map_right_iff]
    refine List.forall₂_same.mpr fun stream _ => ?_
    have halike := s.alike_classify stream
    exact ⟨rfl, halike, halike.verdict_eq skip, halike.wouldBeBuiltinFiltered_eq skip⟩
  stats := by
    rw [stats_evaluate, stats_evaluate]
    exact s.stats_locating streams skip

end FieldSet

/-- **The way groups are located moves highlights and nothing else.** In every text every
pattern picks out the same with both, though perhaps further left in an occurrence. So for
all settings, batches and both positions of the switch the verdicts and the statistics are
the same. -/
theorem location_moves_highlights_only :
    (∀ (p : CompiledPattern) (text : String), p.LocatedAlike text) ∧
      ∀ (patterns : PatternSettings) (engine : EngineSettings) (streams : List Stream)
        (skip : Bool),
        let exact := FieldSet.compile patterns { engine with groupLocation := .exact }
        let moved := FieldSet.compile patterns { engine with groupLocation := .substringSearch }
        (exact.evaluate streams skip).Alike (moved.evaluate streams skip) ∧
          moved.stats streams skip = exact.stats streams skip := by
  refine ⟨CompiledPattern.locatedAlike, fun patterns engine streams skip => ⟨?_, ?_⟩⟩
  · exact (FieldSet.compile patterns engine).alike_evaluate streams skip
  · exact (FieldSet.compile patterns engine).stats_locating streams skip

end StreamNames
