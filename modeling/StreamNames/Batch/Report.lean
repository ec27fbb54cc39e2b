import StreamNames.Batch.FieldSet
import StreamNames.Highlight.Segment
import StreamNames.Verdict.Stats

/-!
# Evaluating a batch

Each stream of a batch is evaluated on its own; the statistics count the results.

- `Stream`: a stream as it is fed in.
- `FieldSet.evaluate`: the report on a batch.
-/

namespace StreamNames

/-- A stream: its name, and why the built-in filter flagged it, if it did. -/
structure Stream where
  name : String
  builtinFilterReason : Option String
  deriving DecidableEq, Repr

/-- The result for one stream. -/
structure StreamReport where
  name : String
  segments : List Segment
  record : Record
  verdict : Verdict
  wouldBeBuiltinFiltered : Bool
  deriving DecidableEq, Repr

/-- The results for a batch. -/
structure BatchReport where
  items : List StreamReport
  stats : Stats
  deriving DecidableEq, Repr

namespace FieldSet

/-- What is found out about a stream. -/
def classify (s : FieldSet) (stream : Stream) : Record :=
  { extractionRanges := s.extractionRanges stream.name
    includeMatch := s.includeMatch stream.name
    excludeMatch := s.excludeMatch stream.name
    builtinFilterReason := stream.builtinFilterReason }

/-- The result for a stream. `skip` switches the built-in filter off. -/
def evaluateStream (s : FieldSet) (skip : Bool) (stream : Stream) : StreamReport :=
  let record := s.classify stream
  { name := stream.name
    segments := buildSegments stream.name record.extractionRanges
    record
    verdict := record.verdict skip
    wouldBeBuiltinFiltered := record.wouldBeBuiltinFiltered skip }

/-- The results for a batch, in the order of its streams. -/
def evaluate (s : FieldSet) (streams : List Stream) (skip : Bool) : BatchReport :=
  let items := streams.map (s.evaluateStream skip)
  ⟨items, aggregate (items.map (·.record)) skip⟩

/-- The statistics of a batch alone. -/
def stats (s : FieldSet) (streams : List Stream) (skip : Bool) : Stats :=
  aggregate (streams.map s.classify) skip

end FieldSet

end StreamNames
