import StreamNames.Pattern.Basic
import StreamNames.Text.Offsets

/-!
# Highlighted segments

A name is cut into segments so that the parts picked out by patterns can be shown apart.
Ranges may overlap and come in any order. They claim characters in the order of their
starts, of equal starts the one given first, and each gets what is left when its turn
comes. What no tagged range claims is untagged, and adjacent untagged parts are joined.

- `buildSegments`: the segments of a text.
-/

namespace StreamNames

open Text (Offsets sliceBytes)

/-- Some characters of a text with their place in it, and their tag if they have one. -/
structure Segment where
  text : String
  group : Option String
  start : Nat
  stop : Nat
  deriving DecidableEq, Repr

/-- Whether a segment has a tag. -/
def Segment.isTagged (s : Segment) : Bool := s.group.isSome

namespace Highlight

/-- Puts a range before the first one that starts no earlier. -/
def insertByStart (r : MatchRange) : List MatchRange → List MatchRange
  | [] => [r]
  | s :: rest => if r.start ≤ s.start then r :: s :: rest else s :: insertByStart r rest

/-- Ranges by their start; those with equal starts keep their order. -/
def sortByStart (ranges : List MatchRange) : List MatchRange :=
  ranges.foldr insertByStart []

/-- The untagged stretch from `start` to `stop`, unless it is empty. -/
def gap (start stop : Nat) : List MatchRange :=
  if start < stop then [⟨start, stop, none⟩] else []

/-- The stretches that sorted ranges claim of the `length` characters of a text, and the
gaps between them. Everything before `cursor` is claimed already. -/
def claims (length : Nat) : (cursor : Nat) → List MatchRange → List MatchRange
  | cursor, [] => gap cursor length
  | cursor, r :: rest =>
    let start := min (max r.start cursor) length
    let stop := min r.stop length
    if start < stop then
      gap cursor start ++ ⟨start, stop, r.group⟩ :: claims length stop rest
    else claims length cursor rest

/-- Joins adjacent stretches without a tag. -/
def joinUntagged : List MatchRange → List MatchRange
  | [] => []
  | r :: rest =>
    match joinUntagged rest with
    | [] => [r]
    | s :: rest =>
      if r.group = none ∧ s.group = none then ⟨r.start, s.stop, none⟩ :: rest
      else r :: s :: rest

/-- A stretch with the characters it covers, which are cut out by their bytes. -/
def segmentOf (text : List Char) (offsets : Offsets) (r : MatchRange) : Segment :=
  let slice := sliceBytes text (offsets.byteOfChar r.start) (offsets.byteOfChar r.stop)
  ⟨String.ofList slice, r.group, r.start, r.stop⟩

end Highlight

open Highlight in
/-- The segments of a text in which some ranges were picked out. -/
def buildSegments (text : String) (ranges : List MatchRange) : List Segment :=
  let chars := text.toList
  let offsets := Offsets.ofText chars
  (joinUntagged (claims offsets.charCount 0 (sortByStart ranges))).map
    (segmentOf chars offsets)

end StreamNames
