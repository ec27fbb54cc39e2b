import StreamNames.Pattern.Basic
import StreamNames.Pattern.Dialect
import StreamNames.Pattern.Limits
import StreamNames.Regex

/-!
# Compiled patterns

A pattern is refused if it is blank, exceeds a limit or is no regular expression, and is
otherwise ready for searching. Case is always ignored.

- `CompiledPattern.compile`: prepares a pattern or tells why it is refused.
-/

namespace StreamNames

/-- Why a pattern is refused. -/
inductive PatternError where
  | blank
  | limit (error : LimitError)
  /-- The pattern in the internal dialect is no regular expression. -/
  | compile (internal : String) (error : Regex.CompileError)
  deriving DecidableEq, Repr

/-- The wording of a refusal. -/
def PatternError.message : PatternError → String
  | blank => "Pattern cannot be empty"
  | limit e => e.message
  | compile internal e => "Invalid regex: " ++ e.message internal

/-- A pattern that is ready for searching: its text as written and as compiled. -/
structure CompiledPattern where
  source : String
  internal : String
  regex : Regex
  complexity : Complexity

namespace CompiledPattern

/-- The named groups, in the order in which they open. -/
def groupNames (p : CompiledPattern) : List String := p.regex.groupNames

/-- Whether a pattern has named groups. -/
def hasNamedGroups (p : CompiledPattern) : Bool := !p.groupNames.isEmpty

/-- Prepares a pattern for searching. -/
def compile (limits : PatternLimits) (source : String) :
    Except PatternError CompiledPattern :=
  if Text.isBlank source then .error .blank
  else
    let complexity := Complexity.analyze source
    match limits.check complexity with
    | .error e => .error (.limit e)
    | .ok () =>
      let internal := toInternal source
      match Regex.compile internal with
      | .error e => .error (.compile internal e)
      | .ok regex => .ok ⟨source, internal, regex, complexity⟩

end CompiledPattern

end StreamNames
