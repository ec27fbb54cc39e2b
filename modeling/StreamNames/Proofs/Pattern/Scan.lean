import Mathlib.Data.List.Forall2
import StreamNames.Proofs.Pattern.Location

/-!
# A scan visits every occurrence once

A pattern is searched for again and again, each time from where the last match ended, or
one character further on if that match was empty. So no match overlaps an earlier one, and
no place is passed over where a match starts.

- `Scanned`: the matches of a scan from one character on, one search after another.
- `scanned_scan`: the bound on the number of searches is never what ends a scan.
- `Scanned.pairwise` and `Scanned.complete`: order and completeness, by induction on the
  searches.
- `FaithfulScan`, `CompiledPattern.faithfulScan`: what a pattern picks out of a text.
-/

namespace StreamNames

open Regex (Extent LeftmostSearch Match leftmostSearch_captures? boundaryOf boundaryOf_inj
  boundaryOf_le_iff boundaryOf_lt_iff)
open Text (Offsets byteLength)

/-! ## The cursor -/

/-- The cursor at a character. It is one byte beyond the text for the character after the
last. -/
def cursorAt (text : List Char) (c : Nat) : Nat := boundaryOf text c + (c - text.length)

theorem cursorAt_of_le {text : List Char} {c : Nat} (hc : c ≤ text.length) :
    cursorAt text c = boundaryOf text c := by
  rw [cursorAt, Nat.sub_eq_zero_of_le hc, Nat.add_zero]

/-- A cursor beyond the text is after its last character. -/
theorem byteLength_lt_cursorAt_iff {text : List Char} {c : Nat} :
    byteLength text < cursorAt text c ↔ text.length < c := by
  rw [cursorAt, boundaryOf]
  constructor
  · intro h
    have := Text.byteLength_take_le_byteLength text c
    omega
  · intro h
    rw [List.take_of_length_le (Nat.le_of_lt h)]
    omega

/-- The next boundary is that after one more character. -/
theorem nextCharBoundary_byteLength (offset : Nat) {text : List Char} {k : Nat}
    (hk : k ≤ text.length) :
    nextCharBoundary offset text (offset + byteLength (text.take k)) =
      offset + byteLength (text.take (k + 1)) + (k + 1 - text.length) := by
  -- the text is walked from its start, as the search for the boundary does
  induction text generalizing offset k with
  | nil =>
    obtain rfl : k = 0 := Nat.le_zero.mp hk
    rfl
  | cons c rest ih =>
    have hc := c.utf8Size_pos
    cases k with
    | zero =>
      rw [nextCharBoundary, if_pos (by simp), List.take_succ_cons, Text.byteLength_cons]
      simp
    | succ k =>
      rw [List.take_succ_cons, List.take_succ_cons, Text.byteLength_cons, Text.byteLength_cons,
        nextCharBoundary, if_neg (by omega), ← Nat.add_assoc,
        ih (offset + c.utf8Size) (Nat.le_of_succ_le_succ hk), List.length_cons]
      omega

/-- The character at which the next search starts after a match of characters `j` to
`k`. -/
def nextChar (j k : Nat) : Nat := if j < k then k else k + 1

theorem le_nextChar (j k : Nat) : k ≤ nextChar j k := by
  unfold nextChar
  split <;> omega

theorem lt_nextChar {j k : Nat} (h : j ≤ k) : j < nextChar j k := by
  unfold nextChar
  split <;> omega

theorem cursorAfter_of_spans {text : List Char} {e : Extent} {j k : Nat}
    (h : e.Spans text j k) : cursorAfter text e = cursorAt text (nextChar j k) := by
  obtain ⟨hjk, hk, hstart, hstop⟩ := h
  rw [cursorAfter, nextChar, hstart, hstop]
  by_cases hlt : j < k
  · rw [if_pos ((boundaryOf_lt_iff (by omega) hk).mpr hlt), if_pos hlt, cursorAt_of_le hk]
  · have := nextCharBoundary_byteLength 0 hk
    rw [Nat.zero_add, Nat.zero_add] at this
    rw [if_neg (mt (boundaryOf_lt_iff (by omega) hk).mp hlt), if_neg hlt]
    exact this

/-! ## One search after another -/

/-- The matches of a scan that starts at character number `c`. -/
inductive Scanned (text : List Char) (search : Nat → Option Match) : Nat → List Match → Prop
  | beyond {c : Nat} (beyond : text.length < c) : Scanned text search c []
  | nothing {c : Nat} (nothing : search (boundaryOf text c) = none) : Scanned text search c []
  | found {c j k : Nat} {m : Match} {ms : List Match} (within : c ≤ text.length)
      (found : search (boundaryOf text c) = some m) (after : c ≤ j)
      (spans : m.extent.Spans text j k) (later : Scanned text search (nextChar j k) ms) :
      Scanned text search c (m :: ms)

section

variable {text : List Char} {search : Nat → Option Match} {c : Nat} {ms : List Match}

/-- **A scan ends because nothing is left to be found.** Each search starts at a later
character than the one before, so there are enough of them. -/
theorem scanned_scan (h : LeftmostSearch text search) {bound : Nat}
    (hbound : text.length + 1 ≤ c + bound) :
    Scanned text search c (scan search text bound (cursorAt text c)) := by
  -- the character and the bound together stay beyond the end of the text
  induction bound generalizing c with
  | zero => exact .beyond (by omega)
  | succ bound ih =>
    rw [scan]
    split
    · next hbeyond => exact .beyond (byteLength_lt_cursorAt_iff.mp hbeyond)
    · next hwithin =>
      have hc : c ≤ text.length := Nat.not_lt.mp (mt byteLength_lt_cursorAt_iff.mpr hwithin)
      rw [cursorAt_of_le hc]
      split
      · next hnone => exact .nothing hnone
      · next m hsome =>
        obtain ⟨j, k, hcj, hspans, -⟩ := h.spans hc hsome
        have hnext := lt_nextChar hspans.le
        rw [cursorAfter_of_spans hspans]
        exact .found hc hsome hcj hspans (ih (by omega))

/-- Every match lies on boundaries, not before the start of the scan. -/
theorem Scanned.spans (h : Scanned text search c ms) :
    ∀ m ∈ ms, ∃ j k, c ≤ j ∧ m.extent.Spans text j k := by
  induction h with
  | beyond => exact fun m hm => absurd hm List.not_mem_nil
  | nothing => exact fun m hm => absurd hm List.not_mem_nil
  | @found c j k m ms hc hfound hcj hspans hlater ih =>
    refine List.forall_mem_cons.mpr ⟨⟨j, k, hcj, hspans⟩, fun m' hm' => ?_⟩
    obtain ⟨j', k', hj', hspans'⟩ := ih m' hm'
    have := lt_nextChar hspans.le
    exact ⟨j', k', by omega, hspans'⟩

/-- **Matches are in order and do not overlap.** -/
theorem Scanned.pairwise (h : Scanned text search c ms) :
    ms.Pairwise fun m m' =>
      m.extent.start < m'.extent.start ∧ m.extent.stop ≤ m'.extent.start := by
  induction h with
  | beyond => exact .nil
  | nothing => exact .nil
  | @found c j k m ms hc hfound hcj hspans hlater ih =>
    refine List.pairwise_cons.mpr ⟨fun m' hm' => ?_, ih⟩
    obtain ⟨j', k', hj', hspans'⟩ := hlater.spans m' hm'
    -- the next search starts behind the match, and behind an empty one it moves on by one
    have hlt := lt_nextChar hspans.le
    have hle := le_nextChar j k
    have hj := hspans.start_le_length
    have hj'k := hspans'.start_le_length
    rw [hspans.start_eq, hspans.stop_eq, hspans'.start_eq, boundaryOf_lt_iff hj hj'k,
      boundaryOf_le_iff hspans.le_length hj'k]
    exact ⟨by omega, by omega⟩

/-- Every match is what a search from its own start finds. -/
theorem Scanned.again (hsearch : LeftmostSearch text search) (h : Scanned text search c ms) :
    ∀ m ∈ ms, search m.extent.start = some m := by
  induction h with
  | beyond => exact fun m hm => absurd hm List.not_mem_nil
  | nothing => exact fun m hm => absurd hm List.not_mem_nil
  | found hc hfound hcj hspans hlater ih =>
    refine List.forall_mem_cons.mpr ⟨?_, ih⟩
    rw [hspans.start_eq]
    exact hsearch.again hc (hspans.start_le_length) hfound hspans.start_eq

/-- **No place is missed.** Where a match starts, a match was visited that starts there or
that goes on there. -/
theorem Scanned.complete (hsearch : LeftmostSearch text search) (h : Scanned text search c ms)
    {i : Nat} (hci : c ≤ i) (hi : i ≤ text.length) {m : Match}
    (hmatch : search (boundaryOf text i) = some m) (hstart : m.extent.start = boundaryOf text i) :
    ∃ m' ∈ ms, m'.extent.start = boundaryOf text i ∨
      m'.extent.start < boundaryOf text i ∧ boundaryOf text i < m'.extent.stop := by
  induction h with
  | beyond hbeyond => omega
  | nothing hnothing =>
    obtain ⟨m', hfound, -⟩ := hsearch.leftmost hci hi hmatch hstart
    rw [hnothing] at hfound
    cases hfound
  | @found c j k m' ms hc hfound hcj hspans hlater ih =>
    have hj := hspans.start_le_length
    -- the search that found this match would have found the one at `i` before a later one
    have hji : j ≤ i := by
      obtain ⟨m'', hfound', hle⟩ := hsearch.leftmost hci hi hmatch hstart
      obtain rfl : m' = m'' := Option.some.inj (hfound.symm.trans hfound')
      rwa [hspans.start_eq, boundaryOf_le_iff hj hi] at hle
    by_cases hnext : nextChar j k ≤ i
    · -- `i` is left to the searches that follow
      obtain ⟨m'', hm'', hcovers⟩ := ih hnext
      exact ⟨m'', List.mem_cons_of_mem _ hm'', hcovers⟩
    · -- the match at hand starts at `i`, or it is not empty and goes on there
      refine ⟨m', List.mem_cons_self, ?_⟩
      rw [hspans.start_eq, hspans.stop_eq, boundaryOf_inj hj hi, boundaryOf_lt_iff hj hi,
        boundaryOf_lt_iff hi hspans.le_length]
      unfold nextChar at hnext
      split at hnext <;> omega

end

/-! ## What a pattern picks out -/

/-- A stretch on boundaries is the range of its characters. -/
theorem rangeOf_of_spans {text : List Char} {e : Extent} {j k : Nat} (h : e.Spans text j k)
    (group : Option String) : rangeOf (.ofText text) e group = ⟨j, k, group⟩ := by
  obtain ⟨hjk, hk, hstart, hstop⟩ := h
  rw [rangeOf, hstart, hstop, boundaryOf, boundaryOf,
    Offsets.charOfByte_byteLength (Nat.le_trans hjk hk), Offsets.charOfByte_byteLength hk]

namespace CompiledPattern

/-- The whole matches that a scan visits, in characters. -/
def visited (p : CompiledPattern) (text : String) : List MatchRange :=
  (p.occurrences text.toList).map fun found =>
    rangeOf (.ofText text.toList) found.extent none

/-- A match can start at a character: a search from there finds one that starts there. -/
def MatchStartsAt (p : CompiledPattern) (text : String) (i : Nat) : Prop :=
  ∃ found, p.regex.captures? text.toList ((Offsets.ofText text.toList).byteOfChar i) =
      some found ∧
    found.extent.start = (Offsets.ofText text.toList).byteOfChar i

/-- The groups that took part in a match, in the order in which they open. -/
def participants (p : CompiledPattern) (found : Match) : List String :=
  (p.regex.named.filter fun (index, _) => (found.group? index).isSome).map (·.2)

theorem participants_sublist_groupNames (p : CompiledPattern) (found : Match) :
    (p.participants found).Sublist p.groupNames :=
  List.filter_sublist.map _

/-- Ranges are the groups of one match: each that took part, inside the match. -/
structure GroupsOf (p : CompiledPattern) (text : String) (found : Match)
    (ranges : List MatchRange) : Prop where
  participating : ranges.map (·.group) = (p.participants found).map some
  ordered : (p.participants found).Sublist p.groupNames
  inside : ∀ r ∈ ranges,
    (rangeOf (.ofText text.toList) found.extent none).start ≤ r.start ∧ r.start ≤ r.stop ∧
      r.stop ≤ (rangeOf (.ofText text.toList) found.extent none).stop

/-- A scan of a text neither misses an occurrence nor reports one twice. -/
structure FaithfulScan (p : CompiledPattern) (text : String) : Prop where
  /-- What is visited lies in the text. -/
  bounded : ∀ r ∈ p.visited text, r.start ≤ r.stop ∧ r.stop ≤ text.length
  /-- Each occurrence starts later than the one before and not before its end. -/
  ordered : (p.visited text).Pairwise fun r s => r.start < s.start ∧ r.stop ≤ s.start
  /-- Occurrences are only visited where a match can start. -/
  sound : ∀ r ∈ p.visited text, p.MatchStartsAt text r.start
  /-- Where a match can start, an occurrence starts or goes on. -/
  complete : ∀ i ≤ text.length, p.MatchStartsAt text i →
    ∃ r ∈ p.visited text, r.start = i ∨ r.start < i ∧ i < r.stop
  /-- Without named groups the occurrences are picked out. -/
  whole : p.hasNamedGroups = false → ∀ location, p.matchRanges location text = p.visited text
  /-- With named groups those of each occurrence are picked out. -/
  grouped : p.hasNamedGroups = true → ∀ location, ∃ parts,
    p.matchRanges location text = parts.flatten ∧
      List.Forall₂ (p.GroupsOf text) (p.occurrences text.toList) parts

/-! ### The occurrences -/

section

variable {p : CompiledPattern}

theorem scanned_occurrences (p : CompiledPattern) (text : List Char) :
    Scanned text (p.regex.captures? text) 0 (p.occurrences text) := by
  have hbound : text.length + 1 ≤ 0 + (text.length + 1) := by omega
  have h := scanned_scan (leftmostSearch_captures? p.regex text) hbound
  rwa [cursorAt_of_le (Nat.zero_le _), Regex.boundaryOf_zero] at h

/-- An occurrence is what a search from its own start finds. -/
theorem captures?_of_mem_occurrences {text : List Char} {found : Match}
    (h : found ∈ p.occurrences text) :
    p.regex.captures? text found.extent.start = some found :=
  (p.scanned_occurrences text).again (leftmostSearch_captures? p.regex text) found h

/-- An occurrence lies on boundaries, with its groups inside. -/
theorem spans_of_mem_occurrences {text : List Char} {found : Match}
    (h : found ∈ p.occurrences text) : ∃ j k, found.extent.Spans text j k ∧
      ∀ index g, found.group? index = some g → g.Within text j k := by
  obtain ⟨j, k, -, hspans⟩ := (p.scanned_occurrences text).spans found h
  have hagain := captures?_of_mem_occurrences h
  rw [hspans.start_eq] at hagain
  obtain ⟨j', k', -, hspans', hgroups⟩ :=
    (leftmostSearch_captures? p.regex text).spans hspans.start_le_length hagain
  exact ⟨j', k', hspans', hgroups⟩

/-- What is visited in characters is an occurrence in bytes. -/
theorem exists_spans_of_mem_visited {text : String} {r : MatchRange} (hr : r ∈ p.visited text) :
    ∃ found ∈ p.occurrences text.toList, found.extent.Spans text.toList r.start r.stop := by
  obtain ⟨found, hfound, rfl⟩ := List.mem_map.mp hr
  obtain ⟨j, k, hspans, -⟩ := spans_of_mem_occurrences hfound
  rw [rangeOf_of_spans hspans]
  exact ⟨found, hfound, hspans⟩

theorem pairwise_visited (p : CompiledPattern) (text : String) :
    (p.visited text).Pairwise fun r s => r.start < s.start ∧ r.stop ≤ s.start := by
  refine List.pairwise_map.mpr ((p.scanned_occurrences text.toList).pairwise.imp_of_mem ?_)
  intro m m' hm hm' ⟨hlt, hle⟩
  obtain ⟨j, k, hspans, -⟩ := spans_of_mem_occurrences hm
  obtain ⟨j', k', hspans', -⟩ := spans_of_mem_occurrences hm'
  rw [hspans.start_eq, hspans'.start_eq,
    boundaryOf_lt_iff hspans.start_le_length hspans'.start_le_length] at hlt
  rw [hspans.stop_eq, hspans'.start_eq,
    boundaryOf_le_iff hspans.le_length hspans'.start_le_length] at hle
  rw [rangeOf_of_spans hspans, rangeOf_of_spans hspans']
  exact ⟨hlt, hle⟩

theorem matchStartsAt_of_mem_visited {text : String} {r : MatchRange} (hr : r ∈ p.visited text) :
    p.MatchStartsAt text r.start := by
  obtain ⟨found, hfound, hspans⟩ := exists_spans_of_mem_visited hr
  have hplace : (Offsets.ofText text.toList).byteOfChar r.start = found.extent.start :=
    (Offsets.byteOfChar_ofText text.toList r.start).trans hspans.start_eq.symm
  refine ⟨found, ?_, hplace.symm⟩
  rw [hplace]
  exact captures?_of_mem_occurrences hfound

/-- Where a match can start, an occurrence starts or goes on. -/
theorem MatchStartsAt.exists_visited {text : String} {i : Nat} (h : p.MatchStartsAt text i)
    (hi : i ≤ text.toList.length) :
    ∃ r ∈ p.visited text, r.start = i ∨ r.start < i ∧ i < r.stop := by
  obtain ⟨m, hmatch, hstart⟩ := h
  rw [Offsets.byteOfChar_ofText] at hmatch hstart
  obtain ⟨found, hfound, hcovers⟩ := (p.scanned_occurrences text.toList).complete
    (leftmostSearch_captures? p.regex text.toList) (Nat.zero_le i) hi hmatch hstart
  obtain ⟨j, k, hspans, -⟩ := spans_of_mem_occurrences hfound
  have hj := hspans.start_le_length
  refine ⟨_, List.mem_map_of_mem hfound, ?_⟩
  rw [rangeOf_of_spans hspans]
  rwa [hspans.start_eq, hspans.stop_eq, boundaryOf_inj hj hi, boundaryOf_lt_iff hj hi,
    boundaryOf_lt_iff hi hspans.le_length] at hcovers

/-! ### The ranges -/

/-- Without named groups each occurrence contributes itself. -/
theorem matchRanges_eq_visited {text : String} (hnamed : p.hasNamedGroups = false)
    (location : GroupLocation) : p.matchRanges location text = p.visited text := by
  rw [matchRanges, visited, List.map_eq_flatMap]
  congr 1
  funext found
  rw [rangesOf, if_neg (by rw [hnamed]; exact Bool.false_ne_true)]

/-- The groups of an occurrence, wherever they are located. -/
theorem groupsOf_rangesOf {text : String} {found : Match} (hnamed : p.hasNamedGroups = true)
    (h : found ∈ p.occurrences text.toList) (location : GroupLocation) :
    p.GroupsOf text found (p.rangesOf location text.toList (.ofText text.toList) found) := by
  obtain ⟨j, k, hspans, hgroups⟩ := spans_of_mem_occurrences h
  rw [rangesOf, if_pos hnamed]
  refine ⟨?participating, p.participants_sublist_groupNames found, fun r hr => ?inside⟩
  case participating =>
    rw [participants]
    -- ranges and participants are taken from the same list, group by group
    induction p.regex.named with
    | nil => rfl
    | cons named rest ih =>
      cases hgroup : found.group? named.1 with
      | none => simpa [List.filterMap_cons, hgroup] using ih
      | some g => simpa [List.filterMap_cons, hgroup, rangeOf] using ih
  case inside =>
    obtain ⟨named, -, hr⟩ := List.mem_filterMap.mp hr
    obtain ⟨g, hg, rfl⟩ := Option.map_eq_some_iff.mp hr
    obtain ⟨a, b, hja, hbk, hgroup⟩ := hgroups named.1 g hg
    obtain ⟨i, hji, hia, hlocated⟩ := spans_locate location hja hgroup
    have hab := hgroup.le
    rw [hspans.start_eq, rangeOf_of_spans hlocated, rangeOf_of_spans hspans]
    exact ⟨hji, Nat.le_add_right i (b - a), by show i + (b - a) ≤ k; omega⟩

/-- What is visited lies in the text. -/
theorem bounds_of_mem_visited {text : String} {r : MatchRange} (hr : r ∈ p.visited text) :
    r.start ≤ r.stop ∧ r.stop ≤ text.length := by
  obtain ⟨found, -, hspans⟩ := exists_spans_of_mem_visited hr
  exact ⟨hspans.le, hspans.le_length⟩

/-- What is picked out lies in the text, wherever groups are located. -/
theorem bounds_of_mem_matchRanges {text : String} {location : GroupLocation} {r : MatchRange}
    (hr : r ∈ p.matchRanges location text) : r.start ≤ r.stop ∧ r.stop ≤ text.length := by
  cases hnamed : p.hasNamedGroups with
  | false =>
    rw [matchRanges_eq_visited hnamed] at hr
    exact bounds_of_mem_visited hr
  | true =>
    obtain ⟨found, hfound, hr⟩ := List.mem_flatMap.mp hr
    obtain ⟨-, hle, hstop⟩ := (groupsOf_rangesOf hnamed hfound location).inside r hr
    have hvisited : rangeOf (.ofText text.toList) found.extent none ∈ p.visited text :=
      List.mem_map_of_mem hfound
    exact ⟨hle, Nat.le_trans hstop (bounds_of_mem_visited hvisited).2⟩

end

/-- **A scan neither misses an occurrence nor reports one twice**, whatever the pattern and
the text. -/
theorem faithfulScan (p : CompiledPattern) (text : String) : p.FaithfulScan text where
  bounded := fun r hr => bounds_of_mem_visited hr
  ordered := p.pairwise_visited text
  sound := fun r hr => matchStartsAt_of_mem_visited hr
  complete := fun i hi h => h.exists_visited hi
  whole := fun hnamed location => matchRanges_eq_visited hnamed location
  grouped := by
    intro hnamed location
    refine ⟨(p.occurrences text.toList).map
      (p.rangesOf location text.toList (.ofText text.toList)), ?_, ?_⟩
    · rw [matchRanges, List.flatMap_def]
    · rw [List.forall₂_map_right_iff]
      exact List.forall₂_same.mpr fun found hfound => groupsOf_rangesOf hnamed hfound location

end CompiledPattern

end StreamNames
