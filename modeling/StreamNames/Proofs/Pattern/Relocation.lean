import StreamNames.Proofs.Pattern.Scan

/-!
# Moved groups

A group that is located by a search for its text may be shown earlier in its match than it
matched. Nothing else changes: a search locates the same groups of the same matches, each
with as many and the same characters.

- `MatchRange.Alike`: two ranges that differ in their place alone.
- `MatchRange.MovedWithin`: what becomes of a range in a match; it stays where it is unless
  its text starts earlier in the match.
- `CompiledPattern.locatedAlike`: whatever the pattern and the text, the two ways to locate
  groups differ in this alone.
-/

namespace StreamNames

open Regex (Extent Match boundaryOf)
open Text (Offsets sliceBytes sliceChars)

/-! ## Ranges -/

/-- Two ranges of a text have the same group and the same characters, and the second does
not start after the first. -/
structure MatchRange.Alike (text : String) (r s : MatchRange) : Prop where
  group : s.group = r.group
  length : s.length = r.length
  characters : sliceChars text.toList s.start s.stop = sliceChars text.toList r.start r.stop
  not_later : s.start ≤ r.start

/-- A range in an occurrence, and where a search for its text shows it. -/
structure MatchRange.MovedWithin (text : String) (occurrence exact moved : MatchRange) : Prop where
  alike : exact.Alike text moved
  within : occurrence.start ≤ moved.start ∧ moved.start ≤ moved.stop ∧
    moved.stop ≤ occurrence.stop
  /-- The range moves if its text starts earlier in the occurrence, and only then. -/
  unmoved_iff : moved = exact ↔ ∀ i, occurrence.start ≤ i → i < exact.start →
    ¬ sliceChars text.toList exact.start exact.stop <+: text.toList.drop i

namespace MatchRange

theorem Alike.refl (text : String) (r : MatchRange) : r.Alike text r :=
  ⟨rfl, rfl, rfl, Nat.le_refl _⟩

/-- The whole of an occurrence does not move. -/
theorem movedWithin_self {text : String} {r : MatchRange} (h : r.start ≤ r.stop) :
    r.MovedWithin text r r where
  alike := .refl text r
  within := ⟨Nat.le_refl _, h, Nat.le_refl _⟩
  unmoved_iff := iff_of_true rfl fun _ hge hlt => absurd hlt (Nat.not_lt.mpr hge)

/-- A range moves to where its text occurs first in the occurrence. -/
theorem movedWithin_of_firstOccurrence {text : String} {j k a b i : Nat}
    {whole group : Option String} (hab : a ≤ b) (hbk : b ≤ k) (hb : b ≤ text.toList.length)
    (hia : j + i ≤ a)
    (hfirst : FirstOccurrence (sliceChars text.toList a b) (text.toList.drop j) i) :
    MovedWithin text ⟨j, k, whole⟩ ⟨a, b, group⟩ ⟨j + i, j + i + (b - a), group⟩ := by
  have hoccurs : sliceChars text.toList a b <+: text.toList.drop (j + i) := by
    rw [← List.drop_drop]
    exact hfirst.occurs
  refine ⟨⟨rfl, ?length, ?characters, hia⟩, ⟨?_, ?_, ?_⟩, ?unmoved⟩
  case length => exact Nat.add_sub_cancel_left ..
  case characters =>
    have := sliceChars_of_prefix hoccurs
    rwa [length_sliceChars hb] at this
  case unmoved =>
    -- the ranges have the same length, so they are the same if they start at one place
    constructor
    · intro hsame c (hjc : j ≤ c) (hca : c < a)
      have hstart : j + i = a := congrArg MatchRange.start hsame
      have hearlier := hfirst.first (c - j) (by omega)
      rwa [List.drop_drop, Nat.add_sub_cancel' hjc] at hearlier
    · intro hno
      have hstart : j + i = a := by
        refine Nat.le_antisymm hia (Nat.le_of_not_lt fun hlt => ?_)
        exact hno (j + i) (Nat.le_add_right j i) hlt hoccurs
      rw [hstart, Nat.add_sub_cancel' hab]
  · exact Nat.le_add_right j i
  · exact Nat.le_add_right ..
  · show j + i + (b - a) ≤ k
    omega

end MatchRange

/-! ## Patterns -/

namespace CompiledPattern

/-- A search for the text of each group that took part in an occurrence finds it, from the
start of the occurrence on. -/
def SearchesSucceed (p : CompiledPattern) (text : String) : Prop :=
  ∀ found ∈ p.occurrences text.toList, ∀ index group, found.group? index = some group →
    (findText (sliceBytes text.toList group.start group.stop) found.extent.start
      (dropBytes 0 text.toList found.extent.start)).isSome

/-- The two ways to locate groups pick out the same of a text, at other places perhaps. -/
structure LocatedAlike (p : CompiledPattern) (text : String) : Prop where
  /-- Entry by entry the ranges belong to one occurrence, where one moved. -/
  entries : List.Forall₂
    (fun exact moved => ∃ occurrence ∈ p.visited text, occurrence.MovedWithin text exact moved)
    (p.matchRanges .exact text) (p.matchRanges .substringSearch text)
  /-- The occurrences are the same, and contribute as many ranges each. -/
  occurrences : ∀ found ∈ p.occurrences text.toList,
    List.Forall₂ ((rangeOf (.ofText text.toList) found.extent none).MovedWithin text)
      (p.rangesOf .exact text.toList (.ofText text.toList) found)
      (p.rangesOf .substringSearch text.toList (.ofText text.toList) found)
  /-- Where a group is searched for, its text is found. -/
  found : p.SearchesSucceed text

section

variable {p : CompiledPattern} {text : String}

theorem searchesSucceed (p : CompiledPattern) (text : String) : p.SearchesSucceed text := by
  intro found hfound index group hgroup
  obtain ⟨j, k, hspans, hgroups⟩ := spans_of_mem_occurrences hfound
  obtain ⟨a, b, hja, -, hspansGroup⟩ := hgroups index group hgroup
  obtain ⟨i, -, hfirst⟩ := exists_firstOccurrence_of_spans hja hspansGroup
  rw [hspans.start_eq, findText_of_firstOccurrence hspansGroup hfirst]
  rfl

/-- The ranges of an occurrence are moved one by one. -/
theorem movedWithin_rangesOf {found : Match} (hfound : found ∈ p.occurrences text.toList) :
    List.Forall₂ ((rangeOf (.ofText text.toList) found.extent none).MovedWithin text)
      (p.rangesOf .exact text.toList (.ofText text.toList) found)
      (p.rangesOf .substringSearch text.toList (.ofText text.toList) found) := by
  obtain ⟨j, k, hspans, hgroups⟩ := spans_of_mem_occurrences hfound
  rw [rangeOf_of_spans hspans]
  unfold rangesOf
  split
  · -- the groups that took part are the same, so they are compared name by name
    have hnamed : List.Forall₂ Eq p.regex.named p.regex.named :=
      List.forall₂_same.mpr fun _ _ => rfl
    refine List.rel_filterMap ?_ hnamed
    rintro ⟨index, name⟩ _ rfl
    dsimp only
    cases hgroup : found.group? index with
    | none => exact .none
    | some group =>
      obtain ⟨a, b, hja, hbk, hspansGroup⟩ := hgroups index group hgroup
      -- the text of a group occurs in the match, at the group itself at the latest
      obtain ⟨i, hia, hfirst⟩ := exists_firstOccurrence_of_spans hja hspansGroup
      refine .some ?_
      have hmoved := spans_locate_of_firstOccurrence hspansGroup hia hfirst
      dsimp only
      rw [hspans.start_eq, rangeOf_of_spans hmoved, locate, rangeOf_of_spans hspansGroup]
      exact MatchRange.movedWithin_of_firstOccurrence hspansGroup.le hbk hspansGroup.le_length
        hia hfirst
  · rw [rangeOf_of_spans hspans]
    exact .cons (MatchRange.movedWithin_self hspans.le) .nil

end

/-- **The way groups are located moves ranges and does nothing else**, whatever the pattern
and the text. -/
theorem locatedAlike (p : CompiledPattern) (text : String) : p.LocatedAlike text where
  entries := by
    rw [matchRanges, matchRanges, List.flatMap_def, List.flatMap_def]
    refine List.rel_flatten ?_
    rw [List.forall₂_map_left_iff, List.forall₂_map_right_iff]
    refine List.forall₂_same.mpr fun found hfound => ?_
    exact (movedWithin_rangesOf hfound).imp fun exact moved hmoved =>
      ⟨_, List.mem_map_of_mem hfound, hmoved⟩
  occurrences := fun _ hfound => movedWithin_rangesOf hfound
  found := p.searchesSucceed text

theorem LocatedAlike.alike {p : CompiledPattern} {text : String} (h : p.LocatedAlike text) :
    List.Forall₂ (MatchRange.Alike text) (p.matchRanges .exact text)
      (p.matchRanges .substringSearch text) :=
  h.entries.imp fun _ _ ⟨_, _, hmoved⟩ => hmoved.alike

end CompiledPattern

end StreamNames
