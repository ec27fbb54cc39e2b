import StreamNames.Text.Blank

/-!
# Patterns

A pattern picks out parts of a stream's name, or decides whether the stream is kept. Its
tag says for which part or decision it is used.

- `Tag`, `Pattern`: a pattern as it is configured.
- `MatchRange`: a part of a name that a pattern picked out.
-/

namespace StreamNames

/-- What a pattern, or a part of a name, is about. The pattern for teams has two named
groups, which pick out one team each. -/
inductive Tag where
  | teams | team1 | team2 | date | time | league | includes | excludes
  deriving DecidableEq, Repr

namespace Tag

/-- All tags. -/
def all : List Tag := [teams, team1, team2, date, time, league, includes, excludes]

/-- The name of a tag. -/
def name : Tag → String
  | teams => "teams"
  | team1 => "team1"
  | team2 => "team2"
  | date => "date"
  | time => "time"
  | league => "league"
  | includes => "include"
  | excludes => "exclude"

/-- The tag with a name. -/
def ofName? (name : String) : Option Tag := all.find? (·.name == name)

/-- Whether patterns with a tag pick out parts of names; the others only keep or drop
streams. -/
def isExtraction : Tag → Bool
  | includes | excludes => false
  | _ => true

end Tag

/-- A pattern as it is configured. -/
structure Pattern where
  source : String
  enabled : Bool
  tag : Tag
  deriving DecidableEq, Repr

namespace Pattern

/-- A pattern that is switched on. -/
def new (tag : Tag) (source : String) : Pattern := ⟨source, true, tag⟩

/-- The pattern, switched off. -/
def disabled (p : Pattern) : Pattern := { p with enabled := false }

/-- Whether a pattern is used: it is switched on and not blank. -/
def isConfigured (p : Pattern) : Bool := p.enabled && !Text.isBlank p.source

end Pattern

/-- The characters of a name from number `start` up to but without number `stop`, with the
name of the group that picked them out. -/
structure MatchRange where
  start : Nat
  stop : Nat
  group : Option String
  deriving DecidableEq, Repr

namespace MatchRange

/-- The number of characters, none if the bounds are in the wrong order. -/
def length (r : MatchRange) : Nat := r.stop - r.start

/-- Whether a range has no characters. -/
def isEmpty (r : MatchRange) : Bool := r.length = 0

end MatchRange

end StreamNames
