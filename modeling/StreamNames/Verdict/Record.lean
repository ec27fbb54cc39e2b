import StreamNames.Pattern.Basic

/-!
# Verdicts

Whether a stream is kept depends on its own record and on one setting for the whole batch,
which switches off the filter that was built in before. Whether a stream was flagged by
that filter is recorded apart from whether the flag drops it now.

- `Record`: what is known about a stream.
- `Record.verdict`: whether it is kept.
-/

namespace StreamNames

/-- What the pattern that streams must match says of a stream. -/
inductive IncludeMatch where
  | matched | notMatched
  /-- There is no such pattern, and nothing is required. -/
  | unconfigured
  deriving DecidableEq, Repr

namespace IncludeMatch

/-- The name of an outcome. -/
def name : IncludeMatch → String
  | matched => "matched"
  | notMatched => "not_matched"
  | unconfigured => "unconfigured"

/-- The outcome with a name. -/
def ofName? : String → Option IncludeMatch
  | "matched" => some matched
  | "not_matched" => some notMatched
  | "unconfigured" => some unconfigured
  | _ => none

/-- The outcome of a pattern that is configured. -/
def ofBool (b : Bool) : IncludeMatch := if b then matched else notMatched

end IncludeMatch

/-- Whether a stream is kept. -/
inductive Verdict where
  | included | excluded
  deriving DecidableEq, Repr

/-- The name of a verdict. -/
def Verdict.name : Verdict → String
  | included => "included"
  | excluded => "excluded"

/-- What is known about a stream: the ranges that patterns picked out of its name, whether
it matches the patterns to keep and to drop, and why the built-in filter flagged it, if it
did. -/
structure Record where
  extractionRanges : List MatchRange
  includeMatch : IncludeMatch
  excludeMatch : Bool
  builtinFilterReason : Option String
  deriving DecidableEq, Repr

namespace Record

/-- Whether the built-in filter flagged a stream. -/
def isBuiltinFlagged (r : Record) : Bool := r.builtinFilterReason.isSome

/-- Whether a stream is kept. `skip` switches the built-in filter off. -/
def verdict (r : Record) (skip : Bool) : Verdict :=
  if r.excludeMatch || (r.isBuiltinFlagged && !skip) || r.includeMatch = .notMatched then
    .excluded
  else .included

/-- Whether a stream is kept only because the built-in filter is switched off. -/
def wouldBeBuiltinFiltered (r : Record) (skip : Bool) : Bool :=
  skip && r.isBuiltinFlagged && r.verdict skip = .included

/-- Whether some range has characters. -/
def hasExtractions (r : Record) : Bool := r.extractionRanges.any (!·.isEmpty)

end Record

end StreamNames
