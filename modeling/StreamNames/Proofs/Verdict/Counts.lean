import Mathlib.Data.List.Induction
import StreamNames.Verdict.Stats

/-!
# Statistics count records

The counters of a batch have 64 bits each. What they count are numbers of records, which
have no bounds of their own.

- `Counts`: the numbers that statistics show.
- `aggregate_eq_toStats`: the statistics of a batch are the numbers of its records, by
  adding one record at the end.
- `Counts.counts_toStats`: numbers that fit 64 bits are shown as they are.
-/

namespace StreamNames

/-- The numbers that statistics show. -/
structure Counts where
  total : Nat
  included : Nat
  excluded : Nat
  builtinFlagged : Nat
  withExtractions : Nat
  deriving DecidableEq, Repr

/-- The numbers that the counters hold. -/
def Stats.counts (s : Stats) : Counts :=
  ⟨s.total.toNat, s.included.toNat, s.excluded.toNat, s.builtinFlagged.toNat,
    s.withExtractions.toNat⟩

namespace Counts

/-- The statistics that show some numbers, as far as they fit the counters. -/
def toStats (c : Counts) : Stats :=
  ⟨.ofNat c.total, .ofNat c.included, .ofNat c.excluded, .ofNat c.builtinFlagged,
    .ofNat c.withExtractions⟩

/-- The numbers of the records of a batch. -/
def ofRecords (records : List Record) (skip : Bool) : Counts :=
  { total := records.length
    included := records.countP fun r => r.verdict skip = .included
    excluded := records.countP fun r => r.verdict skip = .excluded
    builtinFlagged := records.countP fun r => r.isBuiltinFlagged
    withExtractions := records.countP fun r => r.verdict skip = .included && r.hasExtractions }

/-- Numbers that fit the counters are shown as they are. -/
theorem counts_toStats {c : Counts} (htotal : c.total < UInt64.size)
    (hincluded : c.included ≤ c.total) (hexcluded : c.excluded ≤ c.total)
    (hflagged : c.builtinFlagged ≤ c.total) (hextractions : c.withExtractions ≤ c.total) :
    c.toStats.counts = c := by
  unfold toStats Stats.counts
  -- each number is at most that of all records, which fits
  simp only [UInt64.toNat_ofNat_of_lt' htotal,
    UInt64.toNat_ofNat_of_lt' (Nat.lt_of_le_of_lt hincluded htotal),
    UInt64.toNat_ofNat_of_lt' (Nat.lt_of_le_of_lt hexcluded htotal),
    UInt64.toNat_ofNat_of_lt' (Nat.lt_of_le_of_lt hflagged htotal),
    UInt64.toNat_ofNat_of_lt' (Nat.lt_of_le_of_lt hextractions htotal)]

/-- The numbers of the records of a batch fit the counters if that of all records does. -/
theorem counts_toStats_ofRecords {records : List Record} (h : records.length < UInt64.size)
    (skip : Bool) : (ofRecords records skip).toStats.counts = ofRecords records skip :=
  counts_toStats h List.countP_le_length List.countP_le_length List.countP_le_length
    List.countP_le_length

end Counts

/-! ## One record more -/

theorem Verdict.excluded_iff_not_included (v : Verdict) : v = .excluded ↔ ¬v = .included := by
  cases v <;> simp

/-- A counter that counts a record shows a number that is larger by one if the record
counts. -/
theorem Stats.ofNat_countP_concat (p : Record → Bool) (records : List Record) (r : Record) :
    UInt64.ofNat ((records ++ [r]).countP p) =
      UInt64.ofNat (records.countP p) + Stats.one (p r) := by
  rw [List.countP_append, List.countP_singleton, UInt64.ofNat_add]
  cases p r <;> rfl

theorem Counts.toStats_ofRecords_concat (records : List Record) (r : Record) (skip : Bool) :
    (Counts.ofRecords (records ++ [r]) skip).toStats =
      (Counts.ofRecords records skip).toStats.add r skip := by
  unfold Counts.ofRecords Counts.toStats Stats.add
  simp only [Stats.ofNat_countP_concat, List.length_append, List.length_singleton,
    UInt64.ofNat_add, Verdict.excluded_iff_not_included, decide_not]
  rfl

/-- **The statistics of a batch are the numbers of its records.** -/
theorem aggregate_eq_toStats (records : List Record) (skip : Bool) :
    aggregate records skip = (Counts.ofRecords records skip).toStats := by
  -- counters are updated in the order of the records, so the last one comes off first
  induction records using List.reverseRecOn with
  | nil => rfl
  | append_singleton records r ih =>
    rw [Counts.toStats_ofRecords_concat, ← ih, aggregate, List.foldl_append]
    rfl

end StreamNames
