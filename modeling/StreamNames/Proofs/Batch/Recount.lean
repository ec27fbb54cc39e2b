import StreamNames.Batch.Report
import StreamNames.Proofs.Highlight.Ownership
import StreamNames.Proofs.Pattern.Scan
import StreamNames.Proofs.Verdict.Counts

/-!
# Reports that can be recounted

The statistics of a batch are counted from records, where a stream has something picked out
if one of its ranges has characters. What is shown of a stream are segments, where it has if
one of them is tagged. Both come to the same, since ranges lie in the name and have a tag
each: of those that cover a character one owns it, and its segment is tagged.

- `hasExtractions_eq_any_isTagged`: ranges and segments agree on that.
- `Counts.ofItems`: the numbers of the items of a report.
- `evaluate_recomputable`: the statistics of a report are the numbers of its items.
-/

namespace StreamNames

open Highlight

/-! ## Ranges and segments -/

/-- A segment that is tagged has a range with characters. -/
theorem exists_nonempty_of_isTagged {text : String} {ranges : List MatchRange} {s : Segment}
    (hs : s ∈ buildSegments text ranges) (htag : s.isTagged) :
    ∃ r ∈ ranges, r.isEmpty = false := by
  obtain ⟨k, r, hk, -, hcovers⟩ := owner_of_mem_buildSegments hs htag
  -- the range owns the first character of the segment, so it has one
  obtain ⟨-, r', hk', hr', -⟩ := (hcovers _).mp (covers_start_of_mem_buildSegments hs)
  obtain rfl : r = r' := Option.some.inj (hk.symm.trans hk')
  refine ⟨r, List.mem_of_getElem? hk, decide_eq_false ?_⟩
  have := hr'.1
  have := hr'.2
  show ¬r.stop - r.start = 0
  omega

/-- A range with characters has a tagged segment, though not always one of its own: another
range may own all that it covers. -/
theorem exists_isTagged_of_nonempty {text : String} {ranges : List MatchRange}
    (htags : ∀ r ∈ ranges, r.group.isSome) {r : MatchRange} (hr : r ∈ ranges)
    (hstop : r.stop ≤ text.length) (hnonempty : r.isEmpty = false) :
    ∃ s ∈ buildSegments text ranges, s.isTagged := by
  have hlength : ¬r.stop - r.start = 0 := of_decide_eq_false hnonempty
  have hself : r.Covers r.start := ⟨Nat.le_refl _, by omega⟩
  obtain ⟨p, ⟨s, hp, hs⟩, -⟩ :=
    existsUnique_covers_buildSegments ranges (Nat.lt_of_lt_of_le hself.2 hstop)
  have hmem := List.mem_of_getElem? hp
  refine ⟨s, hmem, ?_⟩
  -- the segment of the range's first character has the tag of the range that owns it
  cases hfirst : firstCovering? (sortByStart ranges) r.start with
  | none =>
    exact absurd hself (firstCovering?_eq_none_iff.mp hfirst r (mem_sortByStart.mpr hr))
  | some owner =>
    rw [Segment.isTagged, group_of_mem_buildSegments hmem hs, hfirst]
    exact htags owner (mem_sortByStart.mp (mem_of_firstCovering? hfirst))

/-- **Ranges and segments agree on whether something is picked out**, where all ranges are
tagged and lie in the text. -/
theorem any_isTagged_buildSegments {text : String} {ranges : List MatchRange}
    (hranges : ∀ r ∈ ranges, r.stop ≤ text.length ∧ r.group.isSome) :
    (buildSegments text ranges).any (·.isTagged) = ranges.any (!·.isEmpty) := by
  rw [Bool.eq_iff_iff, List.any_eq_true, List.any_eq_true]
  constructor
  · rintro ⟨s, hs, htag⟩
    obtain ⟨r, hr, hnonempty⟩ := exists_nonempty_of_isTagged hs htag
    exact ⟨r, hr, by rw [hnonempty]; rfl⟩
  · rintro ⟨r, hr, hnonempty⟩
    exact exists_isTagged_of_nonempty (fun r hr => (hranges r hr).2) hr (hranges r hr).1
      (by simpa using hnonempty)

/-! ## The ranges of a batch -/

namespace FieldSet

/-- What fields pick out lies in the name and is tagged. -/
theorem bounds_of_mem_extractionRanges {s : FieldSet} {name : String} {r : MatchRange}
    (hr : r ∈ s.extractionRanges name) : r.stop ≤ name.length ∧ r.group.isSome := by
  obtain ⟨field, -, hr⟩ := List.mem_flatMap.mp hr
  unfold fieldRanges at hr
  split at hr
  · next p hp =>
    obtain ⟨found, hfound, rfl⟩ := List.mem_map.mp hr
    exact ⟨(CompiledPattern.bounds_of_mem_matchRanges hfound).2, rfl⟩
  · cases hr

/-- A stream's record and its segments agree on whether something is picked out. -/
theorem hasExtractions_eq_any_isTagged (s : FieldSet) (skip : Bool) (stream : Stream) :
    (s.evaluateStream skip stream).record.hasExtractions =
      (s.evaluateStream skip stream).segments.any (·.isTagged) :=
  (any_isTagged_buildSegments fun _ => bounds_of_mem_extractionRanges).symm

end FieldSet

/-! ## Recounting -/

/-- The numbers of the items of a report, by what is shown of each. -/
def Counts.ofItems (items : List StreamReport) : Counts :=
  { total := items.length
    included := items.countP fun item => item.verdict = .included
    excluded := items.countP fun item => item.verdict = .excluded
    builtinFlagged := items.countP fun item => item.record.builtinFilterReason.isSome
    withExtractions := items.countP fun item =>
      item.verdict = .included && item.segments.any (·.isTagged) }

/-- No number of items is larger than that of all. -/
theorem Counts.counts_toStats_ofItems {items : List StreamReport}
    (h : items.length < UInt64.size) : (ofItems items).toStats.counts = ofItems items :=
  counts_toStats h List.countP_le_length List.countP_le_length List.countP_le_length
    List.countP_le_length

/-- The numbers of the items of a batch are those of their records. -/
theorem Counts.ofItems_map_evaluateStream (s : FieldSet) (streams : List Stream)
    (skip : Bool) :
    ofItems (streams.map (s.evaluateStream skip)) = ofRecords (streams.map s.classify) skip := by
  unfold ofItems ofRecords
  simp only [List.countP_map, List.length_map, Counts.mk.injEq, true_and]
  refine ⟨rfl, rfl, rfl, List.countP_congr fun stream _ => ?_⟩
  show (_ && (s.evaluateStream skip stream).segments.any (·.isTagged)) = true ↔
    (_ && (s.evaluateStream skip stream).record.hasExtractions) = true
  rw [s.hasExtractions_eq_any_isTagged skip stream]
  rfl

/-- A report whose statistics can be recounted from its items. -/
structure BatchReport.Recomputable (report : BatchReport) (streams : List Stream) : Prop where
  /-- There is one item for each stream, in the order of the streams. -/
  names : report.items.map (·.name) = streams.map (·.name)
  /-- What the built-in filter said is kept. -/
  reasons : report.items.map (·.record.builtinFilterReason) =
    streams.map (·.builtinFilterReason)
  /-- The segments of each item are the name of its stream. -/
  texts : report.items.map (fun item => String.join (item.segments.map Segment.text)) =
    streams.map (·.name)
  /-- The counters hold the numbers of the items, in 64 bits. -/
  stats : report.stats = (Counts.ofItems report.items).toStats
  /-- No counter overflows, unless there are more items than one can count. -/
  fits : report.items.length < UInt64.size → report.stats.counts = Counts.ofItems report.items

/-- **The statistics of every batch can be recounted from its items**, whatever the
settings, and are the same where only they are asked for. -/
theorem evaluate_recomputable (patterns : PatternSettings) (engine : EngineSettings)
    (streams : List Stream) (skip : Bool) :
    let fields := FieldSet.compile patterns engine
    (fields.evaluate streams skip).Recomputable streams ∧
      fields.stats streams skip = (fields.evaluate streams skip).stats := by
  intro fields
  have hrecords : (streams.map (fields.evaluateStream skip)).map (·.record) =
      streams.map fields.classify := by
    rw [List.map_map]
    rfl
  have hstats : (fields.evaluate streams skip).stats =
      (Counts.ofItems (fields.evaluate streams skip).items).toStats := by
    show aggregate ((streams.map (fields.evaluateStream skip)).map (·.record)) skip =
      (Counts.ofItems (streams.map (fields.evaluateStream skip))).toStats
    rw [hrecords, aggregate_eq_toStats, Counts.ofItems_map_evaluateStream]
  -- the segments of a report are counted in `hstats`; what is left compares names and texts
  refine ⟨⟨?names, ?reasons, ?texts, hstats, fun hfits => ?fits⟩, ?_⟩
  case names => exact List.map_map
  case reasons => exact List.map_map
  case texts =>
    rw [FieldSet.evaluate, List.map_map]
    exact List.map_congr_left fun stream _ => join_buildSegments stream.name _
  case fits =>
    rw [hstats]
    exact Counts.counts_toStats_ofItems hfits
  · show aggregate (streams.map fields.classify) skip =
      aggregate ((streams.map (fields.evaluateStream skip)).map (·.record)) skip
    rw [hrecords]

end StreamNames
