import StreamNames.Regex.CharSet

/-!
# Regular expressions

What a regular expression means, without the text it was written as.

- `Look`: tests of the place between two characters.
- `Expr`: expressions over sets of characters.
- `Expr.groupNames`: the names of the groups that can record something.
-/

namespace StreamNames.Regex

open StreamNames.Unicode (isWordCharacter)

/-! ## Tests of a place -/

/-- Tests of whether a word starts or ends at a place. The half tests look at one side
only. -/
inductive WordTest where
  | boundary | notBoundary | start | stop | startHalf | stopHalf
  deriving DecidableEq, Repr

/-- Tests of the place between two characters. -/
inductive Look where
  | textStart | textEnd
  /-- After or before a line feed, or at an end of the text. -/
  | lineStart | lineEnd
  /-- As before, but a carriage return with or without a line feed ends a line too. -/
  | lineStartCrlf | lineEndCrlf
  | word (test : WordTest) (unicode : Bool)
  deriving DecidableEq, Repr

/-- Whether a character belongs to words, by the Unicode or the ASCII rule. -/
def isWord (unicode : Bool) (c : Char) : Bool :=
  if unicode then isWordCharacter c else c.isAlphanum || c = '_'

/-- Whether a test of words holds, given whether the characters before and after the place
belong to words. -/
def WordTest.holds (test : WordTest) (before after : Bool) : Bool :=
  match test with
  | boundary => before != after
  | notBoundary => before == after
  | start => !before && after
  | stop => before && !after
  | startHalf => !before
  | stopHalf => !after

/-- Whether a test holds between two characters, which are missing at the ends. -/
def Look.holds (look : Look) (before after : Option Char) : Bool :=
  match look with
  | textStart => before.isNone
  | textEnd => after.isNone
  | lineStart => before.isNone || before = some '\n'
  | lineEnd => after.isNone || after = some '\n'
  | lineStartCrlf =>
    before.isNone || before = some '\n' || (before = some '\r' && after ≠ some '\n')
  | lineEndCrlf =>
    after.isNone || after = some '\r' || (after = some '\n' && before ≠ some '\r')
  | word test unicode =>
    test.holds (before.any (isWord unicode)) (after.any (isWord unicode))

/-! ## Expressions -/

/-- A regular expression. -/
inductive Expr where
  /-- Matches without taking a character. -/
  | empty
  /-- Takes one character of a set. -/
  | set (set : CharSet)
  | look (look : Look)
  /-- Records what its body matches. -/
  | group (index : Nat) (name : Option String) (body : Expr)
  /-- From `min` to `max` matches in a row, as many as possible first if `greedy`. -/
  | repetition (body : Expr) (min : Nat) (max : Option Nat) (greedy : Bool)
  /-- One match after the other. -/
  | seq (first second : Expr)
  /-- A match of `first` if that leads to a match of the whole, else one of `second`. -/
  | alt (first second : Expr)

namespace Expr

/-- Whether no match takes a character. -/
def isZeroWidth : Expr → Bool
  | empty | look _ => true
  | set _ => false
  | group _ _ body => body.isZeroWidth
  | repetition body _ _ _ => body.isZeroWidth
  | seq first second => first.isZeroWidth && second.isZeroWidth
  | alt first second => first.isZeroWidth && second.isZeroWidth

/-- A repetition in simple form. Repeating a match that takes no character adds nothing, so
once is enough; a repetition of no times, or of exactly one, disappears. -/
def repeated (body : Expr) (min : Nat) (max : Option Nat) (greedy : Bool) : Expr :=
  let (min, max) :=
    if body.isZeroWidth then (Nat.min min 1, some (Nat.min (max.getD 1) 1)) else (min, max)
  if min = 0 ∧ max = some 0 then empty
  else if min = 1 ∧ max = some 1 then body
  else repetition body min max greedy

/-- Matches of several expressions in a row. -/
def sequence : List Expr → Expr
  | [] => empty
  | [e] => e
  | e :: es => seq e (sequence es)

/-- A match of one of several expressions, the first that leads to a match. -/
def choice : List Expr → Expr
  | [] => empty
  | [e] => e
  | e :: es => alt e (choice es)

/-- The groups that record something, in the order in which they open, with their names. -/
def groups : Expr → List (Nat × Option String)
  | empty | set _ | look _ => []
  | group index name body => (index, name) :: body.groups
  | repetition body _ _ _ => body.groups
  | seq first second | alt first second => first.groups ++ second.groups

/-- The named groups, in the order in which they open. -/
def namedGroups (e : Expr) : List (Nat × String) :=
  e.groups.filterMap fun (index, name) => name.map fun name => (index, name)

/-- An estimate of the bytes that an expression takes when it is compiled: each repetition
is written out. -/
def weight : Expr → Nat
  | empty | look _ => 32
  | set s => s.weight
  | group _ _ body => body.weight + 64
  | repetition body min max _ =>
    match max with
    | some max => max * (body.weight + (if min = max then 0 else 40)) + 32
    | none => (Nat.max min 1) * body.weight + 40
  | seq first second => first.weight + second.weight
  | alt first second => first.weight + second.weight + 40

end Expr

end StreamNames.Regex
