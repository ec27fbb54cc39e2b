/-!
# Complexity of patterns

A pattern is priced by its text: repetitions, groups, alternatives and wildcards cost
something, plain characters nothing. The price does not depend on whether the pattern is
well formed.

- `Quantifier.read?`: the bounds in braces after a part.
- `Construct`: what is priced; `constructs` lists those of a pattern.
- `Complexity.analyze`: the price of a pattern and its largest bound.
-/

namespace StreamNames

/-! ## Bounds in braces -/

/-- The bounds of a repetition; without `max` there is no upper bound. -/
structure Quantifier where
  min : Nat
  max : Option Nat
  deriving DecidableEq, Repr

namespace Quantifier

/-- The largest number that a quantifier spells out. -/
def bound (q : Quantifier) : Nat := q.max.getD q.min

/-- The number that decimal digits spell. -/
def decimal (digits : List Char) : Nat :=
  digits.foldl (fun n c => 10 * n + (c.toNat - '0'.toNat)) 0

/-- The number that decimal digits spell, if there are any and it fits 64 bits. -/
def number? (digits : List Char) : Option Nat :=
  if !digits.isEmpty && digits.all Char.isDigit && decimal digits < UInt64.size then
    some (decimal digits)
  else none

/-- The quantifier that stands between braces: `n`, `n,` or `n,m`. -/
def ofBody? (body : List Char) : Option Quantifier :=
  let first := body.takeWhile (· ≠ ',')
  match body.dropWhile (· ≠ ',') with
  | [] => (number? first).map fun n => ⟨n, some n⟩
  | _ :: second =>
    match number? first with
    | none => none
    | some min =>
      if second.isEmpty then some ⟨min, none⟩
      else (number? second).map fun max => ⟨min, some max⟩

/-- Whether a character may stand in a quantifier. -/
def isBodyChar (c : Char) : Bool := c.isDigit || c = ','

/-- The quantifier whose opening brace comes before `text`, and the text after its closing
brace. -/
def read? (text : List Char) : Option (Quantifier × List Char) :=
  match text.dropWhile isBodyChar with
  | '\x7d' :: rest => (ofBody? (text.takeWhile isBodyChar)).map fun q => (q, rest)
  | _ => none

theorem length_lt_of_read? {text : List Char} {q : Quantifier} {rest : List Char}
    (h : read? text = some (q, rest)) : rest.length < text.length := by
  unfold read? at h
  split at h
  · rename_i tail hdrop
    obtain ⟨q', _, hq⟩ := Option.map_eq_some_iff.1 h
    simp only [Prod.mk.injEq] at hq
    have hle := (List.dropWhile_sublist (l := text) isBodyChar).length_le
    rw [hdrop] at hle
    rw [← hq.2]
    simp only [List.length_cons] at hle
    omega
  · simp at h

end Quantifier

/-! ## What is priced -/

/-- A part of a pattern that has a price. -/
inductive Construct where
  /-- `*` or `+`. -/
  | repetition
  /-- `?`. -/
  | optional
  | quantified (quantifier : Quantifier)
  | group
  | alternation
  | wildcard
  | characterClass
  | escape
  | plain
  deriving DecidableEq, Repr

namespace Construct

/-- The price of a part. -/
def cost : Construct → Nat
  | repetition => 3
  | optional => 1
  | quantified q => if q.max.isNone then 5 else 2
  | group => 2
  | alternation => 2
  | wildcard => 2
  | characterClass => 1
  | escape => 1
  | plain => 0

/-- The largest number that a part spells out as a bound. -/
def bound? : Construct → Option Nat
  | quantified q => some q.bound
  | _ => none

end Construct

/-- What follows a class, given what follows its opening bracket: the class ends at the
first closing bracket that is not escaped. -/
def skipClass : List Char → List Char
  | [] => []
  | '\\' :: _ :: rest => skipClass rest
  | ']' :: rest => rest
  | _ :: rest => skipClass rest

theorem length_skipClass_le (text : List Char) : (skipClass text).length ≤ text.length := by
  fun_induction skipClass text <;> simp_all <;> omega

/-- The parts of a pattern in order. A brace that does not open a quantifier is plain. -/
def constructs (text : List Char) : List Construct :=
  match text with
  | [] => []
  | c :: rest =>
    if c = '*' ∨ c = '+' then .repetition :: constructs rest
    else if c = '?' then .optional :: constructs rest
    else if c = '\x7b' then
      match _h : Quantifier.read? rest with
      | some (q, after) => .quantified q :: constructs after
      | none => .plain :: constructs rest
    else if c = '(' then .group :: constructs rest
    else if c = '|' then .alternation :: constructs rest
    else if c = '.' then .wildcard :: constructs rest
    else if c = '[' then .characterClass :: constructs (skipClass rest)
    else if c = '\\' then .escape :: constructs (rest.drop 1)
    else .plain :: constructs rest
termination_by text.length
decreasing_by
  · simp
  · simp
  · have := Quantifier.length_lt_of_read? _h
    simp only [List.length_cons]
    omega
  · simp
  · simp
  · simp
  · simp
  · have := length_skipClass_le rest
    simp only [List.length_cons]
    omega
  · simp only [List.length_drop, List.length_cons]
    omega
  · simp

/-! ## The price of a pattern -/

/-- The larger of two bounds; a missing bound is the least. -/
def largerBound (a b : Option Nat) : Option Nat :=
  match a, b with
  | none, b => b
  | a, none => a
  | some m, some n => some (max m n)

/-- The price of a pattern, in 32 bits, and the largest bound that it spells out. -/
structure Complexity where
  score : UInt32
  maxRepetition : Option Nat
  deriving DecidableEq, Repr

namespace Complexity

/-- Adds one part. -/
def add (total : Complexity) (part : Construct) : Complexity :=
  ⟨total.score + UInt32.ofNat part.cost, largerBound total.maxRepetition part.bound?⟩

/-- The price of a pattern. -/
def analyze (pattern : String) : Complexity :=
  (constructs pattern.toList).foldl add ⟨0, none⟩

/-- The price of parts together, as a number of any size. -/
def totalCost : List Construct → Nat
  | [] => 0
  | part :: parts => part.cost + totalCost parts

/-- The price of a pattern as a number of any size. -/
def exactScore (pattern : String) : Nat := totalCost (constructs pattern.toList)

end Complexity

end StreamNames
