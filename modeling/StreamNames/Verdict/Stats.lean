import StreamNames.Verdict.Record

/-!
# Statistics of a batch

Counters over the records of a batch, in 64 bits each.

- `Stats.add`: counts one record.
- `aggregate`: counts all records of a batch.
-/

namespace StreamNames

/-- How many streams there are, how many are kept and dropped, how many the built-in filter
flagged, and how many of those kept have a part picked out. -/
structure Stats where
  total : UInt64
  included : UInt64
  excluded : UInt64
  builtinFlagged : UInt64
  withExtractions : UInt64
  deriving DecidableEq, Repr

namespace Stats

/-- Nothing counted. -/
def zero : Stats := ⟨0, 0, 0, 0, 0⟩

/-- One if a condition holds. -/
def one (b : Bool) : UInt64 := if b then 1 else 0

/-- Counts one record. -/
def add (s : Stats) (r : Record) (skip : Bool) : Stats :=
  let kept := r.verdict skip = .included
  { total := s.total + 1
    included := s.included + one kept
    excluded := s.excluded + one (!kept)
    builtinFlagged := s.builtinFlagged + one r.isBuiltinFlagged
    withExtractions := s.withExtractions + one (kept && r.hasExtractions) }

end Stats

/-- The statistics of a batch. -/
def aggregate (records : List Record) (skip : Bool) : Stats :=
  records.foldl (·.add · skip) .zero

end StreamNames
