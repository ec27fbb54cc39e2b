import StreamNames.Unicode.CaseFolding
import StreamNames.Unicode.Property

/-!
# Sets of characters

A set as it is put together from ranges and named sets. It is never spelled out: whether
a character is in it is computed from the parts.
-/

namespace StreamNames.Regex

open StreamNames.Unicode (NamedSet caseVariants otherCase)

/-- A set of characters. -/
inductive CharSet where
  /-- No character. -/
  | empty
  /-- The characters from `first` to `last`. -/
  | range (first last : Char)
  /-- The characters of a named set. -/
  | named (set : NamedSet)
  | union (s t : CharSet)
  | intersection (s t : CharSet)
  | difference (s t : CharSet)
  /-- The characters of one of two sets, but not of both. -/
  | symmetricDifference (s t : CharSet)
  | complement (s : CharSet)
  /-- The characters that equal one of the set up to case. -/
  | anyCase (s : CharSet)
  /-- The characters of the set, and ASCII letters whose other case is in it. -/
  | anyAsciiCase (s : CharSet)

namespace CharSet

/-- Whether a character is in a set. -/
def contains : CharSet → Char → Bool
  | empty, _ => false
  | range first last, c => first ≤ c && c ≤ last
  | named set, c => set.holds c
  | union s t, c => s.contains c || t.contains c
  | intersection s t, c => s.contains c && t.contains c
  | difference s t, c => s.contains c && !t.contains c
  | symmetricDifference s t, c => s.contains c != t.contains c
  | complement s, c => !s.contains c
  | anyCase s, c => s.contains c || (caseVariants c).any s.contains
  | anyAsciiCase s, c => s.contains c || (c.isAlpha && s.contains (otherCase c))

/-- The set of one character. -/
def single (c : Char) : CharSet := range c c

/-- The set of all characters. -/
def all : CharSet := complement empty

/-- An estimate of the bytes that a set takes in a compiled expression: sets within ASCII
take little, others grow with their number of stretches. -/
def weight : CharSet → Nat
  | empty => 40
  | range _ last => if last.toNat < 0x80 then 40 else 200
  | named set => 60 * set.runs
  | union s t | intersection s t | difference s t | symmetricDifference s t =>
    s.weight + t.weight
  | complement s => s.weight + 300
  | anyCase s => s.weight + 8
  | anyAsciiCase s => s.weight + 8

end CharSet

end StreamNames.Regex
