/-!
# Tables of code points

A property of characters is written down as text: a list of runs of code points
for a set, a list of starting points for a classification of all characters.
Numbers are lower-case hexadecimal and entries are set apart by blanks.

- `Runs`: a set of code points, as sorted runs; `31-39/2` is a run in steps of two.
- `Partition`: every code point's class; `41Lu` says that `Lu` begins at `0x41`
  and lasts until the next entry.

Both are looked up by bisection, so the entries of a table must be sorted.
-/

namespace StreamNames.Unicode

/-! ## Reading the text of a table -/

/-- The words of a text, which blanks and line ends set apart. -/
def tableWords (text : List Char) : List (List Char) :=
  let (word, words) := text.foldr (fun c (word, words) =>
    if c = ' ' ∨ c = '\n' then
      if word.isEmpty then ([], words) else ([], word :: words)
    else (c :: word, words)) ([], [])
  if word.isEmpty then words else word :: words

/-- The value of a lower-case hexadecimal digit. -/
def lowerHexDigit? (c : Char) : Option Nat :=
  if '0' ≤ c ∧ c ≤ '9' then some (c.toNat - '0'.toNat)
  else if 'a' ≤ c ∧ c ≤ 'f' then some (c.toNat - 'a'.toNat + 10)
  else none

/-- The number that the leading digits of a word spell, and the rest of the word. -/
def takeHex : (value : Nat) → List Char → Nat × List Char
  | value, [] => (value, [])
  | value, c :: cs =>
    match lowerHexDigit? c with
    | some d => takeHex (16 * value + d) cs
    | none => (value, c :: cs)

/-! ## Bisection -/

/-- The last index from `lo` up to `hi` (exclusive) whose starting point is at most
`code`, given that `lo` is such an index and that starting points ascend. -/
def bisect (start : Nat → Nat) (code : Nat) : (fuel lo hi : Nat) → Nat
  | 0, lo, _ => lo
  | fuel + 1, lo, hi =>
    if hi ≤ lo + 1 then lo
    else
      let mid := (lo + hi) / 2
      if start mid ≤ code then bisect start code fuel mid hi
      else bisect start code fuel lo mid

/-! ## Sets -/

/-- The code points `first, first + step, …` up to `last`. -/
structure Run where
  first : Nat
  last : Nat
  step : Nat

/-- Whether a code point is in a run. -/
def Run.contains (run : Run) (code : Nat) : Bool :=
  run.first ≤ code && code ≤ run.last && (code - run.first) % run.step == 0

/-- A set of code points, as runs that ascend and do not overlap. -/
structure Runs where
  entries : Array Run

namespace Runs

/-- A run as it is written in a table: `41`, `41-5a` or `100-12e/2`. -/
def runOfWord (word : List Char) : Run :=
  let (first, rest) := takeHex 0 word
  match rest with
  | '-' :: rest =>
    let (last, rest) := takeHex 0 rest
    match rest with
    | '/' :: rest => ⟨first, last, (takeHex 0 rest).1⟩
    | _ => ⟨first, last, 1⟩
  | _ => ⟨first, first, 1⟩

/-- The set that a table's text writes down. -/
def ofText (text : String) : Runs :=
  ⟨((tableWords text.toList).map runOfWord).toArray⟩

/-- Whether a code point is in the set. -/
def contains (runs : Runs) (code : Nat) : Bool :=
  let start i := match runs.entries[i]? with
    | some run => run.first
    | none => 0
  match runs.entries[bisect start code runs.entries.size 0 runs.entries.size]? with
  | some run => run.contains code
  | none => false

end Runs

/-! ## Classifications -/

/-- A class for every code point: each entry's class lasts until the next entry. -/
structure Partition where
  entries : Array (Nat × String)

namespace Partition

/-- The classification that a table's text writes down. -/
def ofText (text : String) : Partition :=
  ⟨((tableWords text.toList).map fun word =>
    let (start, name) := takeHex 0 word
    (start, String.ofList name)).toArray⟩

/-- The class of a code point. -/
def classOf (table : Partition) (code : Nat) : String :=
  let start i := match table.entries[i]? with
    | some entry => entry.1
    | none => 0
  match table.entries[bisect start code table.entries.size 0 table.entries.size]? with
  | some entry => entry.2
  | none => ""

/-- How many stretches of code points the given classes take up. -/
def stretches (table : Partition) (classes : List String) : Nat :=
  table.entries.foldl (fun n entry => if classes.contains entry.2 then n + 1 else n) 0

end Partition

end StreamNames.Unicode
