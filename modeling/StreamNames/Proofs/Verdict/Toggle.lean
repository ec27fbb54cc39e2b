import StreamNames.Proofs.Verdict.Counts

/-!
# Switching the built-in filter off

The built-in filter drops some streams that nothing else drops. With the filter switched
off, these are let through, and nothing else changes. So the statistics with the filter on
and off differ by the numbers of the streams let through.

- `Record.wouldBeBuiltinFiltered_iff`: which streams are let through.
- `Record.verdict_true_cases`: what becomes of one stream when the filter is switched off.
- `Counts.accounted_ofRecords`: the numbers of a batch, with the filter on and off.
- `aggregate_toggle_accounted`: the same for the counters.
-/

namespace StreamNames

/-! ## One stream -/

namespace Record

/-- A stream is kept if no filter that is switched on drops it. -/
theorem verdict_eq_included_iff {r : Record} {skip : Bool} :
    r.verdict skip = .included ↔ r.excludeMatch = false ∧
      (r.isBuiltinFlagged = true → skip = true) ∧ r.includeMatch ≠ .notMatched := by
  unfold verdict
  cases r.excludeMatch <;> cases r.isBuiltinFlagged <;> cases skip <;>
    cases r.includeMatch <;> simp

/-- With the filter on, no stream is let through. -/
@[simp] theorem wouldBeBuiltinFiltered_false (r : Record) :
    r.wouldBeBuiltinFiltered false = false := rfl

/-- A stream is let through if the verdict on it depends on the filter. -/
theorem wouldBeBuiltinFiltered_iff {r : Record} :
    r.wouldBeBuiltinFiltered true = true ↔
      r.verdict false = .excluded ∧ r.verdict true = .included := by
  have hon : r.verdict false = .excluded ↔ ¬r.verdict false = .included :=
    (r.verdict false).excluded_iff_not_included
  rw [hon, verdict_eq_included_iff, wouldBeBuiltinFiltered, Bool.true_and, Bool.and_eq_true,
    decide_eq_true_iff, verdict_eq_included_iff]
  constructor
  · rintro ⟨hflagged, hkept⟩
    exact ⟨fun hon => Bool.false_ne_true (hon.2.1 hflagged), hkept⟩
  · rintro ⟨hdropped, hexclude, -, hinclude⟩
    refine ⟨?_, hexclude, fun _ => rfl, hinclude⟩
    -- nothing but the flag can drop it
    by_contra hflagged
    exact hdropped ⟨hexclude, fun h => absurd h hflagged, hinclude⟩

/-- **Switching the filter off lets a stream through or changes nothing.** -/
theorem verdict_true_cases (r : Record) :
    (r.wouldBeBuiltinFiltered true = true ∧ r.verdict false = .excluded ∧
      r.verdict true = .included) ∨
    (r.wouldBeBuiltinFiltered true = false ∧ r.verdict true = r.verdict false) := by
  cases hthrough : r.wouldBeBuiltinFiltered true with
  | true => exact .inl ⟨rfl, wouldBeBuiltinFiltered_iff.mp hthrough⟩
  | false =>
    refine .inr ⟨rfl, ?_⟩
    -- the filter only excludes, so where it drops nothing the verdicts are equal
    have hnot : ¬(r.verdict false = .excluded ∧ r.verdict true = .included) := by
      rw [← wouldBeBuiltinFiltered_iff, hthrough]
      exact Bool.false_ne_true
    cases hon : r.verdict false with
    | excluded =>
      exact (r.verdict true).excluded_iff_not_included.mpr fun hoff => hnot ⟨hon, hoff⟩
    | included =>
      obtain ⟨hexclude, -, hinclude⟩ := verdict_eq_included_iff.mp hon
      exact verdict_eq_included_iff.mpr ⟨hexclude, fun _ => rfl, hinclude⟩

theorem wouldBeBuiltinFiltered_iff_ne {r : Record} :
    r.wouldBeBuiltinFiltered true = true ↔ r.verdict true ≠ r.verdict false := by
  rcases r.verdict_true_cases with ⟨hthrough, hon, hoff⟩ | ⟨hthrough, hsame⟩
  · rw [hthrough, hon, hoff]
    decide
  · rw [hthrough, hsame]
    simp

/-- A stream has something picked out if one of its ranges has a first character. -/
theorem hasExtractions_iff {r : Record} :
    r.hasExtractions = true ↔ ∃ range ∈ r.extractionRanges, range.start < range.stop := by
  unfold hasExtractions
  rw [List.any_eq_true]
  refine exists_congr fun range => and_congr_right fun _ => ?_
  rw [MatchRange.isEmpty, MatchRange.length, Bool.not_eq_true', decide_eq_false_iff_not,
    Nat.sub_eq_zero_iff_le, Nat.not_le]

end Record

/-! ## A batch -/

/-- The records of the streams that are kept only because the filter is off. -/
def letThrough (records : List Record) : List Record :=
  records.filter (·.wouldBeBuiltinFiltered true)

theorem mem_letThrough_iff {records : List Record} {r : Record} :
    r ∈ letThrough records ↔ r ∈ records ∧ r.verdict true ≠ r.verdict false := by
  rw [letThrough, List.mem_filter, Record.wouldBeBuiltinFiltered_iff_ne]

/-- Where a condition comes to hold of some and ceases to hold of none, its count goes up by
the number of those. -/
theorem countP_eq_add {α : Type} {before after new : α → Bool} (l : List α)
    (h : ∀ a, after a = (before a || new a) ∧ ¬(before a = true ∧ new a = true)) :
    l.countP after = l.countP before + l.countP new := by
  induction l with
  | nil => rfl
  | cons a l ih =>
    obtain ⟨hafter, hapart⟩ := h a
    rw [List.countP_cons, List.countP_cons, List.countP_cons, ih, hafter]
    cases hbefore : before a <;> cases hnew : new a
    · rfl
    · simp only [Bool.false_or, if_true, Bool.false_eq_true, if_false]
      omega
    · simp only [Bool.true_or, if_true, Bool.false_eq_true, if_false]
      omega
    · exact absurd ⟨hbefore, hnew⟩ hapart

/-- The numbers of a batch with the filter on and off differ by the streams that are let
through. -/
structure Counts.Accounted (records : List Record) (applied skipped : Counts) : Prop where
  total : skipped.total = applied.total
  flagged : skipped.builtinFlagged = applied.builtinFlagged
  reasons : applied.builtinFlagged = records.countP fun r => r.builtinFilterReason.isSome
  included : skipped.included = applied.included + (letThrough records).length
  excluded : applied.excluded = skipped.excluded + (letThrough records).length
  withExtractions : skipped.withExtractions = applied.withExtractions +
    (letThrough records).countP fun r => ∃ range ∈ r.extractionRanges, range.start < range.stop

/-- **The numbers of a batch**: what is let through is kept and no longer dropped. -/
theorem Counts.accounted_ofRecords (records : List Record) :
    Accounted records (ofRecords records false) (ofRecords records true) := by
  -- the first three do not depend on verdicts; the others are counted record by record
  refine ⟨rfl, rfl, rfl, ?included, ?excluded, ?withExtractions⟩
  case included =>
    rw [letThrough, ← List.countP_eq_length_filter]
    refine countP_eq_add records fun r => ?_
    rcases r.verdict_true_cases with ⟨hthrough, hon, hoff⟩ | ⟨hthrough, hsame⟩
    · simp [hthrough, hon, hoff]
    · simp [hthrough, hsame]
  case excluded =>
    rw [letThrough, ← List.countP_eq_length_filter]
    refine countP_eq_add records fun r => ?_
    rcases r.verdict_true_cases with ⟨hthrough, hon, hoff⟩ | ⟨hthrough, hsame⟩
    · simp [hthrough, hon, hoff]
    · simp [hthrough, hsame]
  case withExtractions =>
    rw [letThrough, List.countP_filter]
    refine countP_eq_add records fun r => ?_
    rcases r.verdict_true_cases with ⟨hthrough, hon, hoff⟩ | ⟨hthrough, hsame⟩
    · simp [hthrough, hon, hoff, ← Record.hasExtractions_iff]
    · simp [hthrough, hsame]

/-- The counters of a batch with the filter on and off differ by the streams that are let
through. -/
structure Stats.Accounted (records : List Record) (applied skipped : Stats) : Prop where
  total : skipped.total = applied.total
  flagged : skipped.builtinFlagged = applied.builtinFlagged
  reasons : applied.builtinFlagged =
    .ofNat (records.countP fun r => r.builtinFilterReason.isSome)
  included : skipped.included = applied.included + .ofNat (letThrough records).length
  excluded : applied.excluded = skipped.excluded + .ofNat (letThrough records).length
  withExtractions : skipped.withExtractions = applied.withExtractions +
    .ofNat ((letThrough records).countP fun r =>
      ∃ range ∈ r.extractionRanges, range.start < range.stop)
  /-- No sum overflows, unless there are more records than one can count. -/
  exact : records.length < UInt64.size → Counts.Accounted records applied.counts skipped.counts

/-- Numbers that are accounted for are accounted for in the counters that show them. -/
theorem Counts.Accounted.toStats {records : List Record} {applied skipped : Counts}
    (h : Accounted records applied skipped)
    (hexact : records.length < UInt64.size →
      applied.toStats.counts = applied ∧ skipped.toStats.counts = skipped) :
    Stats.Accounted records applied.toStats skipped.toStats where
  total := congrArg UInt64.ofNat h.total
  flagged := congrArg UInt64.ofNat h.flagged
  reasons := congrArg UInt64.ofNat h.reasons
  included := (congrArg UInt64.ofNat h.included).trans (UInt64.ofNat_add ..)
  excluded := (congrArg UInt64.ofNat h.excluded).trans (UInt64.ofNat_add ..)
  withExtractions := (congrArg UInt64.ofNat h.withExtractions).trans (UInt64.ofNat_add ..)
  exact := by
    intro hfits
    obtain ⟨happlied, hskipped⟩ := hexact hfits
    rwa [happlied, hskipped]

/-- **Switching the filter off is accounted for exactly**: the counters change by the streams
that are let through. These are the streams on which the verdict changes, and with the
filter on there are none. -/
theorem aggregate_toggle_accounted (records : List Record) :
    Stats.Accounted records (aggregate records false) (aggregate records true) ∧
      (∀ r, r ∈ letThrough records ↔ r ∈ records ∧ r.verdict true ≠ r.verdict false) ∧
      records.filter (·.wouldBeBuiltinFiltered false) = [] := by
  refine ⟨?_, fun r => mem_letThrough_iff, ?_⟩
  · rw [aggregate_eq_toStats, aggregate_eq_toStats]
    refine (Counts.accounted_ofRecords records).toStats fun hfits => ⟨?_, ?_⟩
    · exact Counts.counts_toStats_ofRecords hfits false
    · exact Counts.counts_toStats_ofRecords hfits true
  · rw [List.filter_eq_nil_iff]
    intro r _
    rw [Record.wouldBeBuiltinFiltered_false]
    exact Bool.false_ne_true

end StreamNames
