import Mathlib.Data.List.Sort
import StreamNames.Proofs.Highlight.Partition

/-!
# The first claim to a position wins

Of the ranges that cover a position, one owns it: the one with the smallest start, and
among equal starts the one given first. Ownership looks at one position at a time and
knows neither an order of work nor a cursor.

- `Owns`: ownership of a position.
- `firstCovering?_sortByStart_eq_some_iff`: the owner is the first range of the sorted
  list that covers the position; this is where the sort has to be stable.
- `group_of_mem_claims`, `owner_of_mem_claims`: the sweep gives each position to its
  owner, and each tag to all that its range owns.
- `buildSegments_firstClaimWins`: so do the segments of a text.
-/

namespace StreamNames

/-- A position lies in a range. -/
def MatchRange.Covers (r : MatchRange) (i : Nat) : Prop := r.start ≤ i ∧ i < r.stop

instance (r : MatchRange) (i : Nat) : Decidable (r.Covers i) :=
  inferInstanceAs (Decidable (_ ∧ _))

namespace Highlight

/-- Range number `k` owns a position: it covers it, and of all ranges that do it has the
smallest start, and among those with that start the smallest number. -/
def Owns (ranges : List MatchRange) (k i : Nat) : Prop :=
  ∃ r, ranges[k]? = some r ∧ r.Covers i ∧
    ∀ j s, ranges[j]? = some s → s.Covers i → r.start < s.start ∨ r.start = s.start ∧ k ≤ j

/-- A position has one owner. -/
theorem Owns.unique {ranges : List MatchRange} {j k i : Nat} (hj : Owns ranges j i)
    (hk : Owns ranges k i) : j = k := by
  obtain ⟨r, hr, hrcovers, hrfirst⟩ := hj
  obtain ⟨s, hs, hscovers, hsfirst⟩ := hk
  have h₁ := hrfirst k s hs hscovers
  have h₂ := hsfirst j r hr hrcovers
  omega

/-- The first range in a list that covers a position. -/
def firstCovering? (ranges : List MatchRange) (i : Nat) : Option MatchRange :=
  ranges.find? fun r => decide (r.Covers i)

theorem firstCovering?_cons_of_covers {r : MatchRange} {rest : List MatchRange} {i : Nat}
    (h : r.Covers i) : firstCovering? (r :: rest) i = some r :=
  List.find?_cons_of_pos (decide_eq_true h)

theorem firstCovering?_cons_of_not_covers {r : MatchRange} {rest : List MatchRange} {i : Nat}
    (h : ¬r.Covers i) : firstCovering? (r :: rest) i = firstCovering? rest i :=
  List.find?_cons_of_neg (by simpa using h)

theorem firstCovering?_eq_none_iff {ranges : List MatchRange} {i : Nat} :
    firstCovering? ranges i = none ↔ ∀ r ∈ ranges, ¬r.Covers i := by
  simp [firstCovering?]

theorem covers_of_firstCovering? {ranges : List MatchRange} {r : MatchRange} {i : Nat}
    (h : firstCovering? ranges i = some r) : r.Covers i := by
  have hfound := List.find?_some (p := fun r : MatchRange => decide (r.Covers i)) h
  exact of_decide_eq_true hfound

theorem mem_of_firstCovering? {ranges : List MatchRange} {r : MatchRange} {i : Nat}
    (h : firstCovering? ranges i = some r) : r ∈ ranges :=
  List.mem_of_find?_eq_some h

/-! ## Sorting -/

theorem insertByStart_eq_orderedInsert (r : MatchRange) (ranges : List MatchRange) :
    insertByStart r ranges = ranges.orderedInsert (·.start ≤ ·.start) r := by
  induction ranges with
  | nil => rfl
  | cons s rest ih => rw [insertByStart, List.orderedInsert_cons, ih]

theorem sortByStart_eq_insertionSort (ranges : List MatchRange) :
    sortByStart ranges = ranges.insertionSort (·.start ≤ ·.start) := by
  induction ranges with
  | nil => rfl
  | cons r rest ih =>
    show insertByStart r (sortByStart rest) = _
    rw [ih, insertByStart_eq_orderedInsert, List.insertionSort_cons]

theorem mem_sortByStart {ranges : List MatchRange} {r : MatchRange} :
    r ∈ sortByStart ranges ↔ r ∈ ranges := by
  rw [sortByStart_eq_insertionSort]
  exact List.mem_insertionSort _

theorem pairwise_sortByStart (ranges : List MatchRange) :
    (sortByStart ranges).Pairwise (·.start ≤ ·.start) := by
  rw [sortByStart_eq_insertionSort]
  have : Std.Total fun r s : MatchRange => r.start ≤ s.start :=
    ⟨fun r s => Nat.le_total r.start s.start⟩
  have : IsTrans MatchRange fun r s => r.start ≤ s.start :=
    ⟨fun _ _ _ => Nat.le_trans⟩
  exact List.pairwise_insertionSort _ _

/-- Where an inserted range takes the first place, it starts no later than the range that
had it; where it does not, it starts later. -/
theorem firstCovering?_insertByStart {r t : MatchRange} {ranges : List MatchRange} {i : Nat}
    (hsorted : ranges.Pairwise (·.start ≤ ·.start))
    (h : firstCovering? (insertByStart r ranges) i = some t) :
    (t = r ∧ ∀ s, firstCovering? ranges i = some s → r.start ≤ s.start) ∨
    (firstCovering? ranges i = some t ∧ (r.Covers i → t.start < r.start)) := by
  induction ranges with
  | nil =>
    refine .inl ⟨List.mem_singleton.mp (mem_of_firstCovering? h), fun s hs => ?_⟩
    cases hs
  | cons s rest ih =>
    obtain ⟨hs, hrest⟩ := List.pairwise_cons.mp hsorted
    rw [insertByStart] at h
    split at h
    · -- `r` goes before `s`, so it comes before all that could cover the position
      next hle =>
      by_cases hr : r.Covers i
      · rw [firstCovering?_cons_of_covers hr] at h
        refine .inl ⟨(Option.some.inj h).symm, fun t ht => ?_⟩
        rcases List.mem_cons.mp (mem_of_firstCovering? ht) with rfl | ht
        · exact hle
        · exact Nat.le_trans hle (hs t ht)
      · rw [firstCovering?_cons_of_not_covers hr] at h
        exact .inr ⟨h, fun hr' => absurd hr' hr⟩
    · next hlt =>
      by_cases hcov : s.Covers i
      · rw [firstCovering?_cons_of_covers hcov] at h ⊢
        obtain rfl := Option.some.inj h
        exact .inr ⟨rfl, fun _ => Nat.lt_of_not_le hlt⟩
      · rw [firstCovering?_cons_of_not_covers hcov] at h ⊢
        exact ih hrest h

/-- The first range of the sorted list that covers a position owns it. -/
theorem owns_of_firstCovering? {ranges : List MatchRange} {i : Nat} {r : MatchRange}
    (h : firstCovering? (sortByStart ranges) i = some r) :
    ∃ k, ranges[k]? = some r ∧ Owns ranges k i := by
  -- the induction inserts one range in front, which is how the sort goes through the list
  induction ranges generalizing r with
  | nil => cases h
  | cons a rest ih =>
    have hcovers := covers_of_firstCovering? h
    rcases firstCovering?_insertByStart (pairwise_sortByStart rest) h with
      ⟨rfl, hfirst⟩ | ⟨hrest, hafter⟩
    · -- the new range takes the first place
      refine ⟨0, rfl, r, rfl, hcovers, fun j s hs hscovers => ?_⟩
      cases j with
      | zero =>
        obtain rfl : r = s := Option.some.inj hs
        exact .inr ⟨rfl, Nat.le_refl _⟩
      | succ j =>
        cases hcase : firstCovering? (sortByStart rest) i with
        | none =>
          have hmem : s ∈ sortByStart rest := mem_sortByStart.mpr (List.mem_of_getElem? hs)
          exact absurd hscovers (firstCovering?_eq_none_iff.mp hcase s hmem)
        | some t =>
          obtain ⟨k, hk, t', ht', -, htfirst⟩ := ih hcase
          obtain rfl : t = t' := Option.some.inj (hk.symm.trans ht')
          have h₁ := hfirst t hcase
          have h₂ := htfirst j s hs hscovers
          omega
    · -- an older range keeps it, one number higher
      obtain ⟨k, hk, r', hr', -, hkfirst⟩ := ih hrest
      obtain rfl : r = r' := Option.some.inj (hk.symm.trans hr')
      refine ⟨k + 1, hk, r, hk, hcovers, fun j s hs hscovers => ?_⟩
      cases j with
      | zero =>
        obtain rfl : a = s := Option.some.inj hs
        exact .inl (hafter hscovers)
      | succ j =>
        have := hkfirst j s hs hscovers
        omega

/-- **The owner of a position is the first range of the sorted list that covers it.** -/
theorem firstCovering?_sortByStart_eq_some_iff {ranges : List MatchRange} {i : Nat}
    {r : MatchRange} :
    firstCovering? (sortByStart ranges) i = some r ↔
      ∃ k, ranges[k]? = some r ∧ Owns ranges k i := by
  refine ⟨owns_of_firstCovering?, ?_⟩
  rintro ⟨k, hk, howns⟩
  cases hcase : firstCovering? (sortByStart ranges) i with
  | none =>
    obtain ⟨s, hs, hscovers, -⟩ := howns
    have hmem : s ∈ sortByStart ranges := mem_sortByStart.mpr (List.mem_of_getElem? hs)
    exact absurd hscovers (firstCovering?_eq_none_iff.mp hcase s hmem)
  | some s =>
    obtain ⟨j, hj, hjowns⟩ := owns_of_firstCovering? hcase
    rw [howns.unique hjowns, hj] at hk
    exact hk

/-- Equal ranges cover the same positions, so a range that owns one position owns all those
whose first range it equals. -/
theorem Owns.iff_firstCovering? {ranges : List MatchRange} {r : MatchRange} {k i : Nat}
    (howns : Owns ranges k i) (hk : ranges[k]? = some r) (j : Nat) :
    Owns ranges k j ↔ firstCovering? (sortByStart ranges) j = some r := by
  rw [firstCovering?_sortByStart_eq_some_iff]
  refine ⟨fun h => ⟨k, hk, h⟩, ?_⟩
  rintro ⟨l, hl, hlowns⟩
  -- both numbers are the smallest among ranges with this start
  obtain ⟨r₁, hr₁, hcovers₁, hfirst₁⟩ := howns
  obtain ⟨r₂, hr₂, hcovers₂, hfirst₂⟩ := id hlowns
  obtain rfl : r = r₁ := Option.some.inj (hk.symm.trans hr₁)
  obtain rfl : r = r₂ := Option.some.inj (hl.symm.trans hr₂)
  have h₁ := hfirst₁ l r hl hcovers₁
  have h₂ := hfirst₂ k r hk hcovers₂
  obtain rfl : k = l := by omega
  exact hlowns

/-- A position that some range covers has an owner. -/
theorem exists_owns {ranges : List MatchRange} {r : MatchRange} {i : Nat} (hr : r ∈ ranges)
    (hcovers : r.Covers i) : ∃ k, Owns ranges k i := by
  cases hcase : firstCovering? (sortByStart ranges) i with
  | none => exact absurd hcovers (firstCovering?_eq_none_iff.mp hcase r (mem_sortByStart.mpr hr))
  | some s =>
    obtain ⟨k, -, hk⟩ := owns_of_firstCovering? hcase
    exact ⟨k, hk⟩

/-! ## The sweep -/

theorem mem_gap {start stop : Nat} {t : MatchRange} (h : t ∈ gap start stop) :
    t = ⟨start, stop, none⟩ := by
  unfold gap at h
  split at h
  · exact List.mem_singleton.mp h
  · cases h

/-- What the sweep does with one more range: it claims what is left of it, or nothing is. -/
theorem mem_claims_cons {length cursor : Nat} {r t : MatchRange} {rest : List MatchRange}
    (h : t ∈ claims length cursor (r :: rest)) :
    (min (max r.start cursor) length < min r.stop length ∧
      (t = ⟨cursor, min (max r.start cursor) length, none⟩ ∨
        t = ⟨min (max r.start cursor) length, min r.stop length, r.group⟩ ∨
        t ∈ claims length (min r.stop length) rest)) ∨
    (min r.stop length ≤ min (max r.start cursor) length ∧ t ∈ claims length cursor rest) := by
  rw [claims] at h
  split at h
  · next hlt =>
    -- the range is clipped to what is left and claims the rest, behind a gap perhaps
    refine .inl ⟨hlt, ?_⟩
    rcases List.mem_append.mp h with hgap | hrest
    · exact .inl (mem_gap hgap)
    · rcases List.mem_cons.mp hrest with rfl | hrest
      · exact .inr (.inl rfl)
      · exact .inr (.inr hrest)
  · next hge => exact .inr ⟨Nat.le_of_not_lt hge, h⟩

/-- A position before the start of the first of sorted ranges is in none of them. -/
theorem firstCovering?_eq_none_of_lt {r : MatchRange} {rest : List MatchRange} {i : Nat}
    (hsorted : (r :: rest).Pairwise (·.start ≤ ·.start)) (hi : i < r.start) :
    firstCovering? (r :: rest) i = none := by
  refine firstCovering?_eq_none_iff.mpr fun s hs hcovers => ?_
  have hle := hcovers.1
  rcases List.mem_cons.mp hs with rfl | hs
  · omega
  · have := (List.pairwise_cons.mp hsorted).1 s hs
    omega

/-- A claim has what is left of its range. -/
theorem covers_claim_iff {length cursor : Nat} {r : MatchRange} {i : Nat} :
    (⟨min (max r.start cursor) length, min r.stop length, r.group⟩ : MatchRange).Covers i ↔
      (cursor ≤ i ∧ i < length) ∧ r.Covers i := by
  unfold MatchRange.Covers
  dsimp only
  omega

/-- A range has no say beyond its end. -/
theorem firstCovering?_cons_of_stop_le {r : MatchRange} {rest : List MatchRange} {i : Nat}
    (h : r.stop ≤ i) : firstCovering? (r :: rest) i = firstCovering? rest i :=
  firstCovering?_cons_of_not_covers fun hcovers => absurd hcovers.2 (Nat.not_lt.mpr h)

/-- A range that is used up has no say beyond the cursor. -/
theorem firstCovering?_cons_of_usedUp {length cursor : Nat} {r : MatchRange}
    {rest : List MatchRange} {i : Nat}
    (h : min r.stop length ≤ min (max r.start cursor) length) (hcursor : cursor ≤ i)
    (hlength : i < length) : firstCovering? (r :: rest) i = firstCovering? rest i := by
  refine firstCovering?_cons_of_not_covers fun hcovers => ?_
  have hstart := hcovers.1
  have hstop := hcovers.2
  omega

/-- **The sweep gives each position the tag of the first range that covers it.** What lies
behind the cursor is settled, so the ranges that were used up have no say in what is left. -/
theorem group_of_mem_claims {length cursor : Nat} {ranges : List MatchRange}
    (hsorted : ranges.Pairwise (·.start ≤ ·.start)) (hcursor : cursor ≤ length)
    {t : MatchRange} (ht : t ∈ claims length cursor ranges) {i : Nat} (hi : t.Covers i) :
    t.group = (firstCovering? ranges i).bind MatchRange.group := by
  -- each range moves the cursor, so the claims are followed from any cursor on
  induction ranges generalizing cursor with
  | nil =>
    obtain rfl := mem_gap ht
    rfl
  | cons r rest ih =>
    have hrest := (List.pairwise_cons.mp hsorted).2
    obtain ⟨hlow, -, hhigh⟩ := (tiles_claims _ hcursor).bounds ht
    have hstart := hi.1
    have hstop := hi.2
    rcases mem_claims_cons ht with ⟨hlt, rfl | rfl | hmem⟩ | ⟨hge, hmem⟩
    · -- in the gap before the claim
      simp only at hstart hstop
      rw [firstCovering?_eq_none_of_lt hsorted (by omega)]
      rfl
    · -- in the claim
      rw [firstCovering?_cons_of_covers (covers_claim_iff.mp hi).2]
      rfl
    · -- beyond the claim
      have hbeyond := (tiles_claims rest (Nat.min_le_right r.stop length)).bounds hmem
      rw [firstCovering?_cons_of_stop_le (by omega)]
      exact ih hrest (Nat.min_le_right ..) hmem
    · -- the range is used up
      rw [firstCovering?_cons_of_usedUp hge (by omega) (by omega)]
      exact ih hrest hcursor hmem

/-- **A tagged stretch is all that one range owns** beyond the cursor. -/
theorem owner_of_mem_claims {length cursor : Nat} {ranges : List MatchRange}
    (hsorted : ranges.Pairwise (·.start ≤ ·.start)) (hcursor : cursor ≤ length)
    {t : MatchRange} (ht : t ∈ claims length cursor ranges) (htag : t.group ≠ none) :
    ∃ r, r.group = t.group ∧
      ∀ i, t.Covers i ↔ (cursor ≤ i ∧ i < length) ∧ firstCovering? ranges i = some r := by
  -- by the same course of the cursor; a gap has no tag, so it is no case
  induction ranges generalizing cursor with
  | nil =>
    obtain rfl := mem_gap ht
    exact absurd rfl htag
  | cons r rest ih =>
    have hrest := (List.pairwise_cons.mp hsorted).2
    rcases mem_claims_cons ht with ⟨hlt, rfl | rfl | hmem⟩ | ⟨hge, hmem⟩
    · exact absurd rfl htag
    · refine ⟨r, rfl, fun i => covers_claim_iff.trans (and_congr_right fun _ => ?_)⟩
      exact ⟨firstCovering?_cons_of_covers, covers_of_firstCovering?⟩
    · obtain ⟨s, hgroup, hs⟩ := ih hrest (Nat.min_le_right ..) hmem
      refine ⟨s, hgroup, fun i => ⟨fun hi => ?_, fun hi => ?_⟩⟩
      · obtain ⟨hbounds, hfirst⟩ := (hs i).mp hi
        refine ⟨by omega, ?_⟩
        rw [firstCovering?_cons_of_stop_le (by omega)]
        exact hfirst
      · -- the owner is not the range used up here, or its stretch would start too late
        have hself : t.Covers t.start :=
          ⟨Nat.le_refl _, ((tiles_claims _ (Nat.min_le_right ..)).bounds hmem).2.1⟩
        obtain ⟨hbounds, hfirst⟩ := (hs t.start).mp hself
        have hsstop := (covers_of_firstCovering? hfirst).2
        have hsstart := (List.pairwise_cons.mp hsorted).1 s (mem_of_firstCovering? hfirst)
        have hcovers := covers_of_firstCovering? hi.2
        have hcovers₁ := hcovers.1
        have hcovers₂ := hcovers.2
        by_cases hr : r.Covers i
        · have heq := hi.2
          rw [firstCovering?_cons_of_covers hr] at heq
          obtain rfl := Option.some.inj heq
          omega
        · have hnot : ¬(r.start ≤ i ∧ i < r.stop) := hr
          have heq := hi.2
          rw [firstCovering?_cons_of_not_covers hr] at heq
          exact (hs i).mpr ⟨by omega, heq⟩
    · obtain ⟨s, hgroup, hs⟩ := ih hrest hcursor hmem
      refine ⟨s, hgroup, fun i => (hs i).trans (and_congr_right fun hi => ?_)⟩
      rw [firstCovering?_cons_of_usedUp hge hi.1 hi.2]

/-! ## Joining untagged stretches -/

/-- Each position keeps its tag. -/
theorem exists_of_mem_joinUntagged {start stop : Nat} {stretches : List MatchRange}
    (h : Tiles start stop stretches) {t : MatchRange} (ht : t ∈ joinUntagged stretches)
    {i : Nat} (hi : t.Covers i) : ∃ s ∈ stretches, s.Covers i ∧ s.group = t.group := by
  induction h generalizing t with
  | nil => cases ht
  | @cons start stop r rest hstart hlt hrest ih =>
    have hlift : t ∈ joinUntagged rest → ∃ s ∈ r :: rest, s.Covers i ∧ s.group = t.group :=
      fun hmem =>
        let ⟨s, hs, hcovers⟩ := ih hmem hi
        ⟨s, List.mem_cons_of_mem r hs, hcovers⟩
    rcases joinUntagged_cons_cases r rest with ⟨hjoin, heq⟩ |
      ⟨s, more, hjoin, hr, hs, heq⟩ | ⟨s, more, hjoin, -, heq⟩ <;> rw [heq] at ht
    · obtain rfl := List.mem_singleton.mp ht
      exact ⟨t, List.mem_cons_self, hi, rfl⟩
    · rcases List.mem_cons.mp ht with rfl | ht
      · -- the joined stretch is `r` followed by `s`
        by_cases hmiddle : i < r.stop
        · exact ⟨r, List.mem_cons_self, ⟨hi.1, hmiddle⟩, hr⟩
        · have htiles := hrest.joinUntagged
          rw [hjoin] at htiles
          have hsstart : s.start = r.stop := htiles.head_start rfl
          have hcovers : s.Covers i := ⟨by omega, hi.2⟩
          obtain ⟨s', hs', hcovers', hgroup⟩ :=
            ih (t := s) (by rw [hjoin]; exact List.mem_cons_self) hcovers
          exact ⟨s', List.mem_cons_of_mem r hs', hcovers', hgroup.trans hs⟩
      · exact hlift (by rw [hjoin]; exact List.mem_cons_of_mem s ht)
    · rcases List.mem_cons.mp ht with rfl | ht
      · exact ⟨t, List.mem_cons_self, hi, rfl⟩
      · exact hlift (by rw [hjoin]; exact ht)

/-- Tagged stretches stay as they are. -/
theorem mem_of_mem_joinUntagged {stretches : List MatchRange} {t : MatchRange}
    (ht : t ∈ joinUntagged stretches) (htag : t.group ≠ none) : t ∈ stretches := by
  induction stretches with
  | nil => cases ht
  | cons r rest ih =>
    rcases joinUntagged_cons_cases r rest with ⟨hjoin, heq⟩ |
      ⟨s, more, hjoin, hr, hs, heq⟩ | ⟨s, more, hjoin, -, heq⟩ <;> rw [heq] at ht
    · exact List.mem_cons.mpr (.inl (List.mem_singleton.mp ht))
    · rcases List.mem_cons.mp ht with rfl | ht
      · exact absurd rfl htag
      · exact List.mem_cons_of_mem r (ih (by rw [hjoin]; exact List.mem_cons_of_mem s ht))
    · rcases List.mem_cons.mp ht with rfl | ht
      · exact List.mem_cons_self
      · exact List.mem_cons_of_mem r (ih (by rw [hjoin]; exact ht))

/-! ## Stretches by number -/

/-- **A position between the ends lies in exactly one stretch.** -/
theorem Tiles.existsUnique_covers {start stop : Nat} {stretches : List MatchRange}
    (h : Tiles start stop stretches) {i : Nat} (hstart : start ≤ i) (hstop : i < stop) :
    ∃! p : Nat, ∃ r, stretches[p]? = some r ∧ r.Covers i := by
  induction h with
  | nil => omega
  | @cons start stop r rest hr hlt hrest ih =>
    by_cases hi : i < r.stop
    · refine ⟨0, ⟨r, rfl, by omega, hi⟩, ?_⟩
      rintro p ⟨s, hs, hcovers⟩
      cases p with
      | zero => rfl
      | succ p =>
        -- later stretches start behind the position
        have := (hrest.bounds (List.mem_of_getElem? hs)).1
        have := hcovers.1
        omega
    · obtain ⟨p, ⟨s, hs, hcovers⟩, hunique⟩ := ih (by omega) hstop
      refine ⟨p + 1, ⟨s, hs, hcovers⟩, ?_⟩
      rintro q ⟨t, ht, htcovers⟩
      cases q with
      | zero =>
        obtain rfl : r = t := Option.some.inj ht
        exact absurd htcovers.2 hi
      | succ q => exact congrArg Nat.succ (hunique q ⟨t, ht, htcovers⟩)

end Highlight

/-! ## Segments -/

open Highlight

/-- Segments in which the first claim to a position wins. -/
structure FirstClaimWins (length : Nat) (ranges : List MatchRange)
    (segments : List Segment) : Prop where
  /-- Every position of the text lies in exactly one segment. -/
  unique : ∀ i < length, ∃! p : Nat, ∃ s, segments[p]? = some s ∧ s.range.Covers i
  /-- A position that some range covers has one owner. -/
  owner : ∀ i, (∃ r ∈ ranges, r.Covers i) → ∃! k, Owns ranges k i
  /-- A segment has the tag of the range that owns any of its positions. -/
  owned : ∀ s ∈ segments, ∀ i, s.range.Covers i →
    ∀ k r, ranges[k]? = some r → Owns ranges k i → s.group = r.group
  /-- A segment with a position that no range covers has no tag. -/
  unowned : ∀ s ∈ segments, ∀ i, s.range.Covers i →
    (∀ r ∈ ranges, ¬r.Covers i) → s.group = none
  /-- A tagged segment has all positions that one range owns, and no others. -/
  tagged : ∀ s ∈ segments, s.isTagged → ∃! k : Nat, ∃ r, ranges[k]? = some r ∧ r.group = s.group ∧
    ∀ i, s.range.Covers i ↔ i < length ∧ Owns ranges k i
  /-- A tagged range that owns a position of the text has exactly one segment. -/
  yields : ∀ k r, ranges[k]? = some r → r.group.isSome → (∃ i < length, Owns ranges k i) →
    ∃! p : Nat, ∃ s, segments[p]? = some s ∧ s.group = r.group ∧
      ∀ i, s.range.Covers i ↔ i < length ∧ Owns ranges k i

theorem range_mem_joinUntagged {text : String} {ranges : List MatchRange} {s : Segment}
    (hs : s ∈ buildSegments text ranges) :
    s.range ∈ joinUntagged (claims text.length 0 (sortByStart ranges)) := by
  rw [← map_range_buildSegments]
  exact List.mem_map_of_mem hs

/-- A segment covers its own start. -/
theorem covers_start_of_mem_buildSegments {text : String} {ranges : List MatchRange}
    {s : Segment} (hs : s ∈ buildSegments text ranges) : s.range.Covers s.start :=
  ⟨Nat.le_refl _, ((tiles_buildSegments text ranges).bounds (List.mem_map_of_mem hs)).2.1⟩

/-- A segment has the tag of the first of the sorted ranges that covers any of its
positions. -/
theorem group_of_mem_buildSegments {text : String} {ranges : List MatchRange} {s : Segment}
    (hs : s ∈ buildSegments text ranges) {i : Nat} (hi : s.range.Covers i) :
    s.group = (firstCovering? (sortByStart ranges) i).bind MatchRange.group := by
  obtain ⟨t, ht, hcovers, hgroup⟩ := exists_of_mem_joinUntagged
    (tiles_claims _ (Nat.zero_le _)) (range_mem_joinUntagged hs) hi
  exact hgroup.symm.trans
    (group_of_mem_claims (pairwise_sortByStart ranges) (Nat.zero_le _) ht hcovers)

/-- A tagged segment has all positions that one range owns. -/
theorem owner_of_mem_buildSegments {text : String} {ranges : List MatchRange} {s : Segment}
    (hs : s ∈ buildSegments text ranges) (htag : s.isTagged) :
    ∃ k r, ranges[k]? = some r ∧ r.group = s.group ∧
      ∀ i, s.range.Covers i ↔ i < text.length ∧ Owns ranges k i := by
  have hnone : s.range.group ≠ none := Option.isSome_iff_ne_none.mp htag
  obtain ⟨r, hgroup, hr⟩ := owner_of_mem_claims (pairwise_sortByStart ranges) (Nat.zero_le _)
    (mem_of_mem_joinUntagged (range_mem_joinUntagged hs) hnone) hnone
  have hfirst := ((hr _).mp (covers_start_of_mem_buildSegments hs)).2
  obtain ⟨k, hk, howns⟩ := firstCovering?_sortByStart_eq_some_iff.mp hfirst
  refine ⟨k, r, hk, hgroup, fun i => (hr i).trans ?_⟩
  rw [howns.iff_firstCovering? hk]
  exact and_congr_left fun _ => ⟨And.right, fun h => ⟨Nat.zero_le _, h⟩⟩

/-- A position of the text lies in exactly one segment. -/
theorem existsUnique_covers_buildSegments {text : String} (ranges : List MatchRange) {i : Nat}
    (hi : i < text.length) :
    ∃! p : Nat, ∃ s, (buildSegments text ranges)[p]? = some s ∧ s.range.Covers i := by
  have hexists := (tiles_buildSegments text ranges).existsUnique_covers (Nat.zero_le i) hi
  simp only [List.getElem?_map, Option.map_eq_some_iff] at hexists
  refine (existsUnique_congr fun p => ?_).mp hexists
  constructor
  · rintro ⟨_, ⟨s, hs, rfl⟩, hcovers⟩
    exact ⟨s, hs, hcovers⟩
  · rintro ⟨s, hs, hcovers⟩
    exact ⟨s.range, ⟨s, hs, rfl⟩, hcovers⟩

/-- **The first claim to a position wins**: each position of a text has the tag of its
owner, and each tagged range has all it owns in one segment. -/
theorem buildSegments_firstClaimWins (text : String) (ranges : List MatchRange) :
    FirstClaimWins text.length ranges (buildSegments text ranges) := by
  have howned : ∀ s ∈ buildSegments text ranges, ∀ i, s.range.Covers i →
      ∀ k r, ranges[k]? = some r → Owns ranges k i → s.group = r.group := by
    intro s hs i hi k r hk howns
    rw [group_of_mem_buildSegments hs hi,
      firstCovering?_sortByStart_eq_some_iff.mpr ⟨k, hk, howns⟩]
    rfl
  refine ⟨fun i hi => existsUnique_covers_buildSegments ranges hi, fun i hcovered => ?_, howned,
    fun s hs i hi hnone => ?_, fun s hs htag => ?_, fun k r hk htag hsome => ?_⟩
  · -- owner
    obtain ⟨r, hr, hcovers⟩ := hcovered
    obtain ⟨k, hk⟩ := exists_owns hr hcovers
    exact ⟨k, hk, fun j hj => hj.unique hk⟩
  · -- unowned
    have hfirst : firstCovering? (sortByStart ranges) i = none :=
      firstCovering?_eq_none_iff.mpr fun r hr => hnone r (mem_sortByStart.mp hr)
    rw [group_of_mem_buildSegments hs hi, hfirst]
    rfl
  · -- tagged: the start of the segment has one owner
    obtain ⟨k, r, hk, hgroup, hcovers⟩ := owner_of_mem_buildSegments hs htag
    refine ⟨k, ⟨r, hk, hgroup, hcovers⟩, ?_⟩
    rintro j ⟨-, -, -, hjcovers⟩
    have hself := covers_start_of_mem_buildSegments hs
    exact ((hjcovers _).mp hself).2.unique ((hcovers _).mp hself).2
  · -- yields: the segment of an owned position is the only one
    obtain ⟨i, hi, howns⟩ := hsome
    obtain ⟨p, ⟨s, hp, hcovers⟩, hunique⟩ := existsUnique_covers_buildSegments ranges hi
    have hs := List.mem_of_getElem? hp
    have hgroup : s.group = r.group := howned s hs i hcovers k r hk howns
    obtain ⟨j, -, -, -, hj⟩ := owner_of_mem_buildSegments hs (by rwa [Segment.isTagged, hgroup])
    obtain rfl : j = k := ((hj i).mp hcovers).2.unique howns
    refine ⟨p, ⟨s, hp, hgroup, hj⟩, ?_⟩
    rintro q ⟨t, hq, -, ht⟩
    exact hunique q ⟨t, hq, (ht i).mpr ⟨hi, howns⟩⟩

end StreamNames
