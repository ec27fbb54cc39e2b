import StreamNames.Proofs.Highlight.Ownership

/-!
# Segments are a normal form of their ranges

The segments of a text depend on few traits of the ranges: on the order among ranges with
the same start, but on no other order, and only on ranges that have a character of the text.
Segments turned back into ranges give the same segments again, since they lie side by side:
none takes anything from another, and an untagged one that is left out comes back as the gap
between its neighbours.

- `MatchRange.IsIdle`: a range that has no character of a text.
- `eq_of_filter_start_eq`: a sorted list is determined by its ranges of each start.
- `buildSegments_congr`: what of the ranges decides about the segments.
- `Tiles.claims_filter`: stretches side by side claim what they cover.
- `Reordering`: another order that keeps the one among ranges with the same start.
- `NormalForm`, `buildSegments_normalForm`: what segments are the normal form of.
-/

namespace StreamNames

/-- A range has no character among the first `length`. -/
def MatchRange.IsIdle (length : Nat) (r : MatchRange) : Prop := r.stop ≤ r.start ∨ length ≤ r.start

instance (length : Nat) (r : MatchRange) : Decidable (r.IsIdle length) :=
  inferInstanceAs (Decidable (_ ∨ _))

namespace Highlight

/-! ## The order of ranges -/

/-- Inserting a range puts it before those with the same start. -/
theorem filter_insertByStart (start : Nat) (r : MatchRange) (ranges : List MatchRange) :
    (insertByStart r ranges).filter (·.start = start) =
      (r :: ranges).filter (·.start = start) := by
  induction ranges with
  | nil => rfl
  | cons s rest ih =>
    rw [insertByStart]
    split
    · rfl
    · next hlt =>
      -- `s` starts before `r`, so at most one of them has the start in question
      rw [List.filter_cons, ih, List.filter_cons, List.filter_cons, List.filter_cons]
      by_cases hr : r.start = start
      · have hs : s.start ≠ start := by omega
        simp [hr, hs]
      · simp [hr]

/-- **Sorting keeps the order among ranges with the same start.** -/
theorem filter_sortByStart (start : Nat) (ranges : List MatchRange) :
    (sortByStart ranges).filter (·.start = start) = ranges.filter (·.start = start) := by
  induction ranges with
  | nil => rfl
  | cons r rest ih =>
    show (insertByStart r (sortByStart rest)).filter _ = _
    rw [filter_insertByStart, List.filter_cons, List.filter_cons, ih]

/-- The first of sorted ranges starts no later than a range of another list with the same
ranges of each start. -/
theorem head_start_le {r : MatchRange} {ranges others : List MatchRange}
    (hsorted : (r :: ranges).Pairwise (·.start ≤ ·.start))
    (h : ∀ start, (r :: ranges).filter (·.start = start) = others.filter (·.start = start))
    {s : MatchRange} (hs : s ∈ others) : r.start ≤ s.start := by
  have hmem : s ∈ (r :: ranges).filter (·.start = s.start) := by
    rw [h]
    exact List.mem_filter.mpr ⟨hs, decide_eq_true rfl⟩
  rcases List.mem_cons.mp (List.mem_filter.mp hmem).1 with rfl | hmem
  · exact Nat.le_refl _
  · exact (List.pairwise_cons.mp hsorted).1 s hmem

/-- **A sorted list is determined by its ranges of each start.** -/
theorem eq_of_filter_start_eq {ranges others : List MatchRange}
    (hranges : ranges.Pairwise (·.start ≤ ·.start)) (hothers : others.Pairwise (·.start ≤ ·.start))
    (h : ∀ start, ranges.filter (·.start = start) = others.filter (·.start = start)) :
    ranges = others := by
  induction ranges generalizing others with
  | nil =>
    refine (List.eq_nil_iff_forall_not_mem.mpr fun s hs => ?_).symm
    have hmem : s ∈ [].filter (·.start = s.start) := by
      rw [h]
      exact List.mem_filter.mpr ⟨hs, decide_eq_true rfl⟩
    exact absurd hmem List.not_mem_nil
  | cons r ranges ih =>
    cases others with
    | nil =>
      have := h r.start
      simp at this
    | cons s others =>
      -- each head is in the other list, too, and neither list has an earlier start
      have hstart : r.start = s.start :=
        Nat.le_antisymm (head_start_le hranges h List.mem_cons_self)
          (head_start_le hothers (fun start => (h start).symm) List.mem_cons_self)
      have hhead : r = s := by
        have := h r.start
        rw [List.filter_cons_of_pos (by simp), List.filter_cons_of_pos (by simp [hstart])] at this
        exact (List.cons.inj this).1
      subst hhead
      refine congrArg (r :: ·) (ih (List.pairwise_cons.mp hranges).2
        (List.pairwise_cons.mp hothers).2 fun start => ?_)
      have := h start
      by_cases hr : r.start = start
      · rw [List.filter_cons_of_pos (by simp [hr]), List.filter_cons_of_pos (by simp [hr])] at this
        exact (List.cons.inj this).2
      · rwa [List.filter_cons_of_neg (by simp [hr]), List.filter_cons_of_neg (by simp [hr])] at this

/-- Leaving out ranges before sorting leaves out the same ones of the sorted list. -/
theorem sortByStart_filter (p : MatchRange → Bool) (ranges : List MatchRange) :
    sortByStart (ranges.filter p) = (sortByStart ranges).filter p := by
  refine eq_of_filter_start_eq (pairwise_sortByStart _) ((pairwise_sortByStart ranges).filter p)
    fun start => ?_
  rw [filter_sortByStart, List.filter_comm, ← filter_sortByStart start ranges, List.filter_comm]

/-! ## Idle ranges -/

/-- **Idle ranges claim nothing.** -/
theorem claims_filter_not_isIdle (length cursor : Nat) (ranges : List MatchRange) :
    claims length cursor (ranges.filter fun r => ¬r.IsIdle length) =
      claims length cursor ranges := by
  induction ranges generalizing cursor with
  | nil => rfl
  | cons r rest ih =>
    by_cases hidle : r.IsIdle length
    · have hskip : ¬min (max r.start cursor) length < min r.stop length := by
        unfold MatchRange.IsIdle at hidle
        omega
      rw [List.filter_cons_of_neg (by simpa using hidle), ih, claims, if_neg hskip]
    · rw [List.filter_cons_of_pos (by simpa using hidle), claims, claims, ih, ih]

end Highlight

open Text (Offsets)
open Highlight

/-- The segments are what is claimed, joined and cut out of the text. -/
theorem buildSegments_eq_map (text : String) (ranges : List MatchRange) :
    buildSegments text ranges =
      (joinUntagged (claims text.length 0 (sortByStart ranges))).map
        (segmentOf text.toList (.ofText text.toList)) := by
  show (joinUntagged (claims (Offsets.ofText text.toList).charCount 0 _)).map _ = _
  rw [Offsets.charCount_ofText, String.length_toList]

/-- **What of the ranges decides about the segments**: for each start the ranges that are
not idle, in their order. -/
theorem buildSegments_congr {text : String} {ranges others : List MatchRange}
    (h : ∀ start,
      (others.filter fun r => ¬r.IsIdle text.length).filter (·.start = start) =
        (ranges.filter fun r => ¬r.IsIdle text.length).filter (·.start = start)) :
    buildSegments text others = buildSegments text ranges := by
  have hsorted : sortByStart (others.filter fun r => ¬r.IsIdle text.length) =
      sortByStart (ranges.filter fun r => ¬r.IsIdle text.length) := by
    refine eq_of_filter_start_eq (pairwise_sortByStart _) (pairwise_sortByStart _) fun start => ?_
    rw [filter_sortByStart, filter_sortByStart, h]
  rw [sortByStart_filter, sortByStart_filter] at hsorted
  have hclaims : claims text.length 0 (sortByStart others) =
      claims text.length 0 (sortByStart ranges) := by
    rw [← claims_filter_not_isIdle, hsorted, claims_filter_not_isIdle]
  rw [buildSegments_eq_map, buildSegments_eq_map, hclaims]

/-! ## Stretches as ranges -/

namespace Highlight

/-- A range that lies beyond the cursor claims all its characters. -/
theorem claims_cons_of_le {length cursor : Nat} {r : MatchRange} (rest : List MatchRange)
    (hcursor : cursor ≤ r.start) (hlt : r.start < r.stop) (hle : r.stop ≤ length) :
    claims length cursor (r :: rest) = gap cursor r.start ++ r :: claims length r.stop rest := by
  have hstart : min (max r.start cursor) length = r.start := by omega
  rw [claims, hstart, Nat.min_eq_left hle, if_pos hlt]

theorem gap_of_lt {start stop : Nat} (h : start < stop) : gap start stop = [⟨start, stop, none⟩] :=
  if_pos h

theorem gap_self (start : Nat) : gap start start = [] := if_neg (Nat.lt_irrefl start)

/-- An untagged stretch is what is between its ends. -/
theorem eq_gap_of_untagged {r : MatchRange} (hlt : r.start < r.stop) (hr : r.group = none) :
    gap r.start r.stop = [r] := by
  rw [gap_of_lt hlt, ← hr]

/-- **Stretches side by side claim what they cover**, also where some of the untagged ones
are left out: no two untagged ones are neighbours, so each is a gap between two claims. -/
theorem Tiles.claims_filter {start stop : Nat} {stretches : List MatchRange}
    (h : Tiles start stop stretches)
    (halternate : stretches.IsChain fun r s => ¬(r.group = none ∧ s.group = none))
    {p : MatchRange → Bool} (hp : ∀ r ∈ stretches, r.group ≠ none → p r) :
    claims stop start (stretches.filter p) = stretches := by
  induction h with
  | nil => exact gap_self _
  | @cons start stop r rest hstart hlt hrest ih =>
    obtain ⟨hpr, hprest⟩ := List.forall_mem_cons.mp hp
    have hle := hrest.le
    have hih := ih halternate.tail hprest
    subst hstart
    by_cases hkept : p r
    · rw [List.filter_cons_of_pos hkept, claims_cons_of_le _ (Nat.le_refl _) hlt hle, gap_self, hih]
      rfl
    · have hr : r.group = none := by
        by_contra htag
        exact hkept (hpr htag)
      rw [List.filter_cons_of_neg hkept]
      cases hrest with
      | nil => exact eq_gap_of_untagged hlt hr
      | @cons _ _ s more hs hslt hmore =>
        -- the next one has a tag, so it is not left out
        have hstag : s.group ≠ none := fun hs =>
          (List.isChain_cons_cons.mp halternate).1 ⟨hr, hs⟩
        have hskept := hprest s List.mem_cons_self hstag
        have hsle := hmore.le
        rw [List.filter_cons_of_pos hskept] at hih ⊢
        rw [claims_cons_of_le _ (by omega) hslt hsle, hs, gap_self] at hih
        rw [claims_cons_of_le _ (by omega) hslt hsle, hs, eq_gap_of_untagged hlt hr,
          List.singleton_append]
        exact congrArg (r :: ·) hih

/-- Nothing is left to be joined where no untagged stretches are neighbours. -/
theorem joinUntagged_of_isChain {stretches : List MatchRange}
    (h : stretches.IsChain fun r s => ¬(r.group = none ∧ s.group = none)) :
    joinUntagged stretches = stretches := by
  induction stretches with
  | nil => rfl
  | cons r rest ih =>
    have hjoin := ih h.tail
    rw [joinUntagged, hjoin]
    cases rest with
    | nil => rfl
    | cons s more => exact if_neg (List.isChain_cons_cons.mp h).1

/-- No two stretches side by side have the same start. -/
theorem Tiles.nodup_map_start {start stop : Nat} {stretches : List MatchRange}
    (h : Tiles start stop stretches) : (stretches.map (·.start)).Nodup := by
  induction h with
  | nil => exact .nil
  | @cons start stop r rest hstart hlt hrest ih =>
    refine List.nodup_cons.mpr ⟨fun hmem => ?_, ih⟩
    obtain ⟨s, hs, heq⟩ := List.mem_map.mp hmem
    have hbounds := hrest.bounds hs
    simp only at heq
    omega

theorem Tiles.pairwise_start {start stop : Nat} {stretches : List MatchRange}
    (h : Tiles start stop stretches) : stretches.Pairwise (·.start ≤ ·.start) := by
  induction h with
  | nil => exact .nil
  | @cons start stop r rest hstart hlt hrest ih =>
    refine List.pairwise_cons.mpr ⟨fun s hs => ?_, ih⟩
    have := (hrest.bounds hs).1
    omega

/-- Some of the stretches in any order are sorted into the order that they lie in. -/
theorem Tiles.sortByStart_of_subperm {start stop : Nat} {stretches some : List MatchRange}
    (h : Tiles start stop stretches) (hsome : some.Subperm stretches) :
    sortByStart some = stretches.filter (· ∈ some) := by
  have hnodup := h.nodup_map_start
  have hsubset := hsome.subset
  have hmem : ∀ r ∈ sortByStart some, r ∈ stretches :=
    fun r hr => hsubset (mem_sortByStart.mp hr)
  obtain ⟨kept, hperm, hsublist⟩ := hsome
  have hnodupsome : some.Nodup := hperm.nodup_iff.mp (hnodup.of_map _ |>.sublist hsublist)
  have hkept : (sortByStart some).Perm (stretches.filter (· ∈ some)) := by
    rw [sortByStart_eq_insertionSort]
    refine (List.perm_insertionSort _ some).trans ?_
    refine (List.perm_ext_iff_of_nodup hnodupsome ((hnodup.of_map _).filter _)).mpr fun r => ?_
    rw [List.mem_filter, decide_eq_true_iff]
    exact ⟨fun hr => ⟨hsubset hr, hr⟩, And.right⟩
  -- both are sorted by starts, which differ among stretches, so they are the same list
  refine hkept.eq_of_pairwise (fun r s hr hs hrs hsr => ?_) (pairwise_sortByStart some)
    (h.pairwise_start.filter _)
  exact List.inj_on_of_nodup_map hnodup (hmem r hr) (List.mem_filter.mp hs).1
    (Nat.le_antisymm hrs hsr)

end Highlight

/-! ## Segments -/

/-- Ranges in another order, among which those with the same start keep theirs. -/
structure Reordering (ranges others : List MatchRange) : Prop where
  perm : others.Perm ranges
  stable : ∀ start, others.filter (·.start = start) = ranges.filter (·.start = start)

/-- What the segments of a text are the normal form of. -/
structure NormalForm (text : String) (ranges : List MatchRange) : Prop where
  /-- Segments turned back into ranges give the same segments, in any order and with or
  without any of the untagged ones. -/
  again : ∀ back : List MatchRange,
    back.Subperm ((buildSegments text ranges).map Segment.range) →
    (∀ s ∈ buildSegments text ranges, s.isTagged → s.range ∈ back) →
    buildSegments text back = buildSegments text ranges
  /-- Ranges may be reordered, if those with the same start keep their order. -/
  reordered : ∀ others : List MatchRange, Reordering ranges others →
    buildSegments text others = buildSegments text ranges
  /-- Ranges that have no character of the text may be added and left out anywhere. -/
  idle : ∀ others : List MatchRange,
    (others.filter fun r => ¬r.IsIdle text.length) =
      (ranges.filter fun r => ¬r.IsIdle text.length) →
    buildSegments text others = buildSegments text ranges

/-- **Segments are a normal form of ranges**: they give themselves again, and do not tell
apart ranges that differ in idle ones or in the order among different starts. -/
theorem buildSegments_normalForm (text : String) (ranges : List MatchRange) :
    NormalForm text ranges := by
  refine ⟨fun back hback htagged => ?again, fun others horder => ?reordered,
    fun others hsame => ?idle⟩
  case again =>
    have htiles := tiles_buildSegments text ranges
    -- segments tile the text and no two untagged ones are neighbours
    have halternate := isChain_joinUntagged (claims text.length 0 (sortByStart ranges))
    rw [← map_range_buildSegments] at halternate
    -- the ranges that are highlighted again leave out untagged segments at most
    have hkept : ∀ r ∈ (buildSegments text ranges).map Segment.range, r.group ≠ none →
        decide (r ∈ back) := by
      intro r hr htag
      obtain ⟨s, hs, rfl⟩ := List.mem_map.mp hr
      exact decide_eq_true (htagged s hs (Option.isSome_iff_ne_none.mpr htag))
    have hclaims := htiles.claims_filter halternate hkept
    rw [← htiles.sortByStart_of_subperm hback] at hclaims
    rw [buildSegments_eq_map, hclaims, joinUntagged_of_isChain halternate, map_range_buildSegments,
      ← buildSegments_eq_map]
  case reordered =>
    refine buildSegments_congr fun start => ?_
    rw [List.filter_comm, horder.stable, List.filter_comm]
  case idle =>
    exact buildSegments_congr fun start => by rw [hsame]

end StreamNames
