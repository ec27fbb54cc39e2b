import StreamNames.Regex.Ast.Nesting
import StreamNames.Regex.Ast.Reader
import StreamNames.Regex.Expr.Meaning
import StreamNames.Regex.Search

/-!
# Compiled regular expressions

- `Regex.compile`: reads an expression, checks its limits and prepares it for searching.
- `Regex.isMatch`, `Regex.captures?`: searches.
-/

namespace StreamNames

open Regex (Ast Expr Extent Fault Flags Match Program)

/-- A regular expression ready for searching, and its named groups in the order in which
they open. -/
structure Regex where
  program : Program
  named : List (Nat × String)

namespace Regex

/-- How deeply an expression may be nested. -/
def nestLimit : Nat := 250

/-- How many bytes a compiled expression may take. -/
def sizeLimit : Nat := 10485760

/-- Why an expression cannot be compiled. -/
inductive CompileError where
  | fault (fault : Fault)
  | tooLarge
  deriving DecidableEq, Repr

/-- The wording of an error, which shows the expression. -/
def CompileError.message (pattern : String) : CompileError → String
  | fault f => f.report pattern
  | tooLarge =>
    "Compiled regex exceeds size limit of " ++ toString sizeLimit ++ " bytes."

/-- What an expression means: it is read, then its nesting is checked, then its meaning
found. -/
def meaning (pattern : String) : Except Fault Expr := do
  let ast ← Ast.read pattern.toList
  match ast.beyond? nestLimit with
  | some span => throw ⟨.nestLimitExceeded nestLimit, span, none⟩
  | none => pure ()
  let (e, _) ← ast.meaning .initial
  return e

/-- Prepares an expression for searching. The bytes that it would take are not counted but
estimated by `Expr.weight`, so of an expression close to the limit it is not told exactly
whether it is too large. -/
def compile (pattern : String) : Except CompileError Regex :=
  match meaning pattern with
  | .error f => .error (.fault f)
  | .ok e =>
    if sizeLimit < e.weight then .error .tooLarge
    else .ok ⟨.ofExpr e, e.namedGroups⟩

/-- The names of the groups, in the order in which they open. -/
def groupNames (r : Regex) : List String := r.named.map (·.2)

/-- The first match that starts at or after a place, in bytes. -/
def captures? (r : Regex) (text : List Char) (cursor : Nat) : Option Match :=
  r.program.find? text cursor

/-- Whether a text has a match. -/
def isMatch (r : Regex) (text : List Char) : Bool := (r.captures? text 0).isSome

end Regex

end StreamNames
