import StreamNames.Regex.Ast

/-!
# Faults in regular expressions

- `FaultKind`: what can be wrong, with its wording.
- `Fault`: a kind of fault and the text it concerns.
- `Fault.report`: the fault shown beneath the expression, with carets under the text.
-/

namespace StreamNames.Regex

/-- What can be wrong with a regular expression. -/
inductive FaultKind where
  | classEscapeInvalid
  | classRangeInvalid
  | classRangeLiteral
  | classUnclosed
  | decimalInvalid
  | hexEmpty
  | hexInvalid
  | hexInvalidDigit
  | escapeUnexpectedEnd
  | escapeUnrecognized
  | flagDanglingNegation
  | flagDuplicate
  | flagRepeatedNegation
  | flagUnexpectedEnd
  | flagUnrecognized
  | groupNameDuplicate
  | groupNameEmpty
  | groupNameInvalid
  | groupNameUnexpectedEnd
  | groupUnclosed
  | groupUnopened
  | nestLimitExceeded (limit : Nat)
  | repetitionCountInvalid
  | repetitionCountEmpty
  | repetitionCountUnclosed
  | repetitionMissing
  | wordBoundaryUnclosed
  | wordBoundaryUnrecognized
  | wordBoundaryUnexpectedEnd
  | propertyClassInvalid
  | backreference
  | lookAround
  | unicodeNotAllowed
  | invalidUtf8
  | propertyNotFound
  | propertyValueNotFound
  deriving DecidableEq, Repr

/-- The wording of a fault. -/
def FaultKind.message : FaultKind → String
  | classEscapeInvalid => "invalid escape sequence found in character class"
  | classRangeInvalid => "invalid character class range, the start must be <= the end"
  | classRangeLiteral => "invalid range boundary, must be a literal"
  | classUnclosed => "unclosed character class"
  | decimalInvalid => "decimal literal invalid"
  | hexEmpty => "hexadecimal literal empty"
  | hexInvalid => "hexadecimal literal is not a Unicode scalar value"
  | hexInvalidDigit => "invalid hexadecimal digit"
  | escapeUnexpectedEnd =>
    "incomplete escape sequence, reached end of pattern prematurely"
  | escapeUnrecognized => "unrecognized escape sequence"
  | flagDanglingNegation => "dangling flag negation operator"
  | flagDuplicate => "duplicate flag"
  | flagRepeatedNegation => "flag negation operator repeated"
  | flagUnexpectedEnd => "expected flag but got end of regex"
  | flagUnrecognized => "unrecognized flag"
  | groupNameDuplicate => "duplicate capture group name"
  | groupNameEmpty => "empty capture group name"
  | groupNameInvalid => "invalid capture group character"
  | groupNameUnexpectedEnd => "unclosed capture group name"
  | groupUnclosed => "unclosed group"
  | groupUnopened => "unopened group"
  | nestLimitExceeded limit =>
    "exceed the maximum number of nested parentheses/brackets (" ++ toString limit ++ ")"
  | repetitionCountInvalid =>
    "invalid repetition count range, the start must be <= the end"
  | repetitionCountEmpty => "repetition quantifier expects a valid decimal"
  | repetitionCountUnclosed => "unclosed counted repetition"
  | repetitionMissing => "repetition operator missing expression"
  | wordBoundaryUnclosed =>
    "special word boundary assertion is either unclosed or contains an invalid character"
  | wordBoundaryUnrecognized =>
    "unrecognized special word boundary assertion, valid choices are: " ++
      "start, end, start-half or end-half"
  | wordBoundaryUnexpectedEnd =>
    "found either the beginning of a special word boundary or a bounded repetition on a " ++
      "\\b with an opening brace, but no closing brace"
  | propertyClassInvalid => "invalid Unicode character class"
  | backreference => "backreferences are not supported"
  | lookAround => "look-around, including look-ahead and look-behind, is not supported"
  | unicodeNotAllowed => "Unicode not allowed here"
  | invalidUtf8 => "pattern can match invalid UTF-8"
  | propertyNotFound => "Unicode property not found"
  | propertyValueNotFound => "Unicode property value not found"

/-- A fault at a stretch of text; `related` is an earlier stretch that it clashes with. -/
structure Fault where
  kind : FaultKind
  span : Span
  related : Option Span
  deriving DecidableEq, Repr

/-! ## Showing a fault -/

/-- The lines of a text. A line ends with a line feed, before which a carriage return may
stand; neither is part of the line, and no line follows the last end. `current` holds the
line so far, last character first. -/
def splitLines : (current : List Char) → List Char → List (List Char)
  | [], [] => []
  | current, [] => [current.reverse]
  | current, '\n' :: rest =>
    let line := match current with
      | '\r' :: before => before
      | _ => current
    line.reverse :: splitLines [] rest
  | current, c :: rest => splitLines (c :: current) rest

/-- Whether a stretch lies on one line. -/
def Span.isOneLine (s : Span) : Bool := s.start.line == s.stop.line

/-- Stretches in order of their start, then of their end. -/
def Span.before (s t : Span) : Bool :=
  s.start.index < t.start.index
    || (s.start.index == t.start.index && s.stop.index ≤ t.stop.index)

/-- The stretches that a fault concerns, in order. -/
def Fault.spans (fault : Fault) : List Span :=
  match fault.related with
  | none => [fault.span]
  | some other =>
    if other.before fault.span then [other, fault.span] else [fault.span, other]

/-- Carets under the given stretches of one line, at least one for each. `column` counts
what is written so far. -/
def carets : (column : Nat) → List Span → List Char
  | _, [] => []
  | column, s :: rest =>
    let blanks := (s.start.column - 1) - column
    let marks := max 1 (s.stop.column - s.start.column)
    List.replicate blanks ' ' ++ List.replicate marks '^'
      ++ carets (column + blanks + marks) rest

/-- A number, set flush right. -/
def rightAligned (width n : Nat) : List Char :=
  let digits := (toString n).toList
  List.replicate (width - digits.length) ' ' ++ digits

/-- The text of an expression with carets beneath its faulty stretches. Lines are numbered
from `number` when there is more than one, and indented by four columns otherwise. -/
def annotated (width : Nat) (spans : List Span) :
    (number : Nat) → List (List Char) → List Char
  | _, [] => []
  | number, line :: rest =>
    let label := if width = 0 then [] else rightAligned width number ++ [':', ' ']
    let indent := if width = 0 then 4 else width + 2
    let here := spans.filter fun s => s.isOneLine && s.start.line == number
    (if width = 0 then List.replicate 4 ' ' else label) ++ line ++ ['\n']
      ++ (if here.isEmpty then []
          else List.replicate indent ' ' ++ carets 0 here ++ ['\n'])
      ++ annotated width spans (number + 1) rest

/-- The lines of an expression, or one more if it ends with a line end: a fault may lie
after the last end. -/
def lineCount (pattern : List Char) : Nat :=
  (splitLines [] pattern).length + (if pattern.getLast? = some '\n' then 1 else 0)

/-- A fault shown beneath the expression it was found in. -/
def Fault.report (fault : Fault) (pattern : String) : String :=
  let text := pattern.toList
  let count := lineCount text
  let width := if count ≤ 1 then 0 else (toString count).length
  let shown := annotated width fault.spans 1 (splitLines [] text)
  if text.contains '\n' then
    let rule := List.replicate 79 '~' ++ ['\n']
    let notes := (fault.spans.filter fun s => !s.isOneLine).map fun s =>
      "on line " ++ toString s.start.line ++ " (column " ++ toString s.start.column
        ++ ") through line " ++ toString s.stop.line ++ " (column "
        ++ toString (s.stop.column - 1) ++ ")\n"
    "regex parse error:\n" ++ String.ofList (rule ++ shown ++ rule)
      ++ String.join notes ++ "error: " ++ fault.kind.message
  else
    "regex parse error:\n" ++ String.ofList shown ++ "error: " ++ fault.kind.message

end StreamNames.Regex
