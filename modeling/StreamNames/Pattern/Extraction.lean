import StreamNames.Pattern.Compiled
import StreamNames.Text.Offsets

/-!
# What patterns pick out

A pattern is searched for again and again from left to right. The next search starts where
the last match ended, or one character further on if it was empty.

- `CompiledPattern.occurrences`: the matches found in this way.
- `CompiledPattern.matchRanges`: the parts of a text that a pattern picks out, in
  characters: its named groups, or whole matches if it has none.
- `CompiledPattern.groupTexts`: the texts of the named groups of the first match, by name.
- `testMatch`, `getMatchRanges`, `extractGroups`: the same for patterns as they are written,
  where one that is refused matches nothing.
-/

namespace StreamNames

open Regex (Extent Match)
open Text (Offsets sliceBytes)

/-- How a named group is located. -/
inductive GroupLocation where
  /-- Where it matched. -/
  | exact
  /-- Where its text first occurs in the text from the start of the match on. -/
  | substringSearch
  deriving DecidableEq, Repr

namespace GroupLocation

/-- How groups are located if this is not said. -/
def default : GroupLocation := exact

/-- The name of a way to locate groups. -/
def name : GroupLocation → String
  | exact => "exact"
  | substringSearch => "substring_search"

/-- The way to locate groups with a name. -/
def ofName? : String → Option GroupLocation
  | "exact" => some exact
  | "substring_search" => some substringSearch
  | _ => none

end GroupLocation

/-! ## Scanning -/

/-- The byte after the character at a boundary; one beyond the end at the end of the
text. -/
def nextCharBoundary : (offset : Nat) → List Char → (byte : Nat) → Nat
  | offset, [], _ => offset + 1
  | offset, c :: rest, byte =>
    if byte ≤ offset then offset + c.utf8Size
    else nextCharBoundary (offset + c.utf8Size) rest byte

/-- Where the next search starts after a match. -/
def cursorAfter (text : List Char) (found : Extent) : Nat :=
  if found.start < found.stop then found.stop else nextCharBoundary 0 text found.stop

/-- The results of repeated searches that start at `cursor`, at most `bound` of them.
Nothing is searched for beyond the end of the text. -/
def scan (search : Nat → Option Match) (text : List Char) :
    (bound : Nat) → (cursor : Nat) → List Match
  | 0, _ => []
  | bound + 1, cursor =>
    if Text.byteLength text < cursor then []
    else
      match search cursor with
      | none => []
      | some found => found :: scan search text bound (cursorAfter text found.extent)

/-! ## Locating groups -/

/-- The place of the first occurrence of `value` in the rest of a text, in bytes. -/
def findText (value : List Char) : (offset : Nat) → List Char → Option Nat
  | offset, [] => if value.isEmpty then some offset else none
  | offset, c :: rest =>
    if value.isPrefixOf (c :: rest) then some offset
    else findText value (offset + c.utf8Size) rest

/-- The rest of a text from a byte on. -/
def dropBytes : (offset : Nat) → List Char → (byte : Nat) → List Char
  | _, [], _ => []
  | offset, c :: rest, byte =>
    if byte ≤ offset then c :: rest else dropBytes (offset + c.utf8Size) rest byte

/-- Where a group is located whose match is `group`, in an occurrence that starts at
`start`. -/
def locate (location : GroupLocation) (text : List Char) (start : Nat) (group : Extent) :
    Extent :=
  match location with
  | .exact => group
  | .substringSearch =>
    let value := sliceBytes text group.start group.stop
    match findText value start (dropBytes 0 text start) with
    | some place => ⟨place, place + Text.byteLength value⟩
    | none => group

/-- A stretch in bytes as a range of characters. -/
def rangeOf (offsets : Offsets) (extent : Extent) (group : Option String) : MatchRange :=
  ⟨offsets.charOfByte extent.start, offsets.charOfByte extent.stop, group⟩

/-! ## Texts by name -/

/-- A text under its name, in place of what stands under the name already. Names ascend. -/
def insertByName (entry : String × String) : List (String × String) → List (String × String)
  | [] => [entry]
  | other :: rest =>
    if entry.1 < other.1 then entry :: other :: rest
    else if entry.1 = other.1 then entry :: rest
    else other :: insertByName entry rest

/-- Texts in ascending order of their names, under each name the last one. -/
def byName (entries : List (String × String)) : List (String × String) :=
  entries.foldl (fun texts entry => insertByName entry texts) []

namespace CompiledPattern

/-- Whether a text has a match. -/
def isMatch (p : CompiledPattern) (text : String) : Bool := p.regex.isMatch text.toList

/-- The matches in a text, from left to right. -/
def occurrences (p : CompiledPattern) (text : List Char) : List Match :=
  scan (p.regex.captures? text) text (text.length + 1) 0

/-- The ranges that one match contributes: its named groups that took part, or the whole
match if the pattern has no named groups. -/
def rangesOf (p : CompiledPattern) (location : GroupLocation) (text : List Char)
    (offsets : Offsets) (found : Match) : List MatchRange :=
  if p.hasNamedGroups then
    p.regex.named.filterMap fun (index, name) =>
      (found.group? index).map fun group =>
        rangeOf offsets (locate location text found.extent.start group) (some name)
  else [rangeOf offsets found.extent none]

/-- The parts of a text that a pattern picks out. -/
def matchRanges (p : CompiledPattern) (location : GroupLocation) (text : String) :
    List MatchRange :=
  let chars := text.toList
  (p.occurrences chars).flatMap (p.rangesOf location chars (.ofText chars))

/-- The texts of one match: those of its named groups that took part. -/
def textsOf (p : CompiledPattern) (text : List Char) (found : Match) : List (String × String) :=
  p.regex.named.filterMap fun (index, name) =>
    (found.group? index).map fun group =>
      (name, String.ofList (sliceBytes text group.start group.stop))

/-- The named groups of the first match that took part in it, with their texts. -/
def groupTexts (p : CompiledPattern) (text : String) : List (String × String) :=
  let chars := text.toList
  match p.regex.captures? chars 0 with
  | none => []
  | some found => byName (p.textsOf chars found)

end CompiledPattern

/-! ## Patterns as they are written -/

/-- A pattern without limits, unless it is refused. -/
def compiled? (pattern : String) : Option CompiledPattern :=
  match CompiledPattern.compile .none pattern with
  | .ok p => some p
  | .error _ => none

/-- Whether a pattern matches a text. -/
def testMatch (pattern text : String) : Bool :=
  (compiled? pattern).any (·.isMatch text)

/-- The parts of a text that a pattern picks out. -/
def getMatchRanges (pattern text : String) : List MatchRange :=
  match compiled? pattern with
  | some p => p.matchRanges .exact text
  | none => []

/-- The named groups of a pattern's first match, with their texts. -/
def extractGroups (pattern text : String) : List (String × String) :=
  match compiled? pattern with
  | some p => p.groupTexts text
  | none => []

end StreamNames
