import StreamNames.Pattern.Extraction
import StreamNames.Proofs.Regex.Search

/-!
# Where groups are located

A group is located where it matched, or where its text first occurs after the start of the
whole match. In both ways it takes as many characters as it matched.

- `FirstOccurrence`: the least place where a text occurs in another one.
- `findText_eq_some_iff`: finding a text yields that place.
- `exists_firstOccurrence_of_spans`: a group's text always has such a place, so the search
  for it never fails.
- `spans_locate`: a located group starts between the start of the whole match and its own,
  so it stays inside the match.
-/

namespace StreamNames

open Regex (Extent boundaryOf)
open Text (byteLength sliceBytes sliceChars)

/-! ## Finding a text -/

/-- A value occurs in a text at character number `i` and nowhere before. -/
structure FirstOccurrence (value text : List Char) (i : Nat) : Prop where
  le_length : i ≤ text.length
  occurs : value <+: text.drop i
  first : ∀ j < i, ¬ value <+: text.drop j

/-- A value that occurs somewhere occurs there or earlier for the first time. -/
theorem exists_firstOccurrence {value text : List Char} {i : Nat} (hi : i ≤ text.length)
    (h : value <+: text.drop i) : ∃ j ≤ i, FirstOccurrence value text j := by
  induction i using Nat.strong_induction_on with
  | _ i ih =>
    by_cases hearlier : ∃ j < i, value <+: text.drop j
    · obtain ⟨j, hji, hj⟩ := hearlier
      obtain ⟨k, hkj, hk⟩ := ih j hji (by omega) hj
      exact ⟨k, by omega, hk⟩
    · exact ⟨i, Nat.le_refl i, hi, h, fun j hji hj => hearlier ⟨j, hji, hj⟩⟩

theorem FirstOccurrence.unique {value text : List Char} {i j : Nat}
    (hi : FirstOccurrence value text i) (hj : FirstOccurrence value text j) : i = j := by
  rcases Nat.lt_trichotomy i j with hlt | heq | hgt
  · exact absurd hi.occurs (hj.first i hlt)
  · exact heq
  · exact absurd hj.occurs (hi.first j hgt)

/-- A value that does not occur at the start occurs first in the rest of the text. -/
theorem firstOccurrence_cons_succ_iff {value rest : List Char} {c : Char} {i : Nat}
    (h : ¬ value <+: c :: rest) :
    FirstOccurrence value (c :: rest) (i + 1) ↔ FirstOccurrence value rest i := by
  constructor
  · rintro ⟨hi, hoccurs, hfirst⟩
    exact ⟨Nat.le_of_succ_le_succ hi, hoccurs, fun j hj => hfirst (j + 1) (Nat.succ_lt_succ hj)⟩
  · rintro ⟨hi, hoccurs, hfirst⟩
    refine ⟨Nat.succ_le_succ hi, hoccurs, fun j hj => ?_⟩
    cases j with
    | zero => exact h
    | succ j => exact hfirst j (Nat.lt_of_succ_lt_succ hj)

/-- **A text is found at its first occurrence**, and only if it occurs. -/
theorem findText_eq_some_iff {value text : List Char} {offset place : Nat} :
    findText value offset text = some place ↔
      ∃ i, FirstOccurrence value text i ∧ place = offset + byteLength (text.take i) := by
  induction text generalizing offset with
  | nil =>
    rw [findText]
    constructor
    · intro h
      split at h
      · next hempty =>
        cases h
        obtain rfl := List.isEmpty_iff.mp hempty
        exact ⟨0, ⟨Nat.le_refl 0, List.prefix_rfl, fun j hj => absurd hj (Nat.not_lt_zero j)⟩,
          rfl⟩
      · cases h
    · rintro ⟨i, ⟨hi, hoccurs, -⟩, rfl⟩
      obtain rfl : i = 0 := Nat.le_zero.mp hi
      obtain rfl := List.prefix_nil.mp hoccurs
      rfl
  | cons c rest ih =>
    rw [findText]
    split
    · next hprefix =>
      have hzero : FirstOccurrence value (c :: rest) 0 :=
        ⟨Nat.zero_le _, List.isPrefixOf_iff_prefix.mp hprefix,
          fun j hj => absurd hj (Nat.not_lt_zero j)⟩
      constructor
      · rintro ⟨⟩
        exact ⟨0, hzero, rfl⟩
      · rintro ⟨i, hi, rfl⟩
        obtain rfl := hi.unique hzero
        rfl
    · next hprefix =>
      -- nothing is found here, so the places are those in the rest, one character on
      have hno : ¬ value <+: c :: rest := fun h => hprefix (List.isPrefixOf_iff_prefix.mpr h)
      rw [ih]
      constructor
      · rintro ⟨i, hi, rfl⟩
        refine ⟨i + 1, (firstOccurrence_cons_succ_iff hno).mpr hi, ?_⟩
        rw [List.take_succ_cons, Text.byteLength_cons, Nat.add_assoc]
      · rintro ⟨i, hi, rfl⟩
        cases i with
        | zero => exact absurd hi.occurs hno
        | succ i =>
          refine ⟨i, (firstOccurrence_cons_succ_iff hno).mp hi, ?_⟩
          rw [List.take_succ_cons, Text.byteLength_cons, Nat.add_assoc]

/-- The rest of a text from a boundary on. -/
theorem dropBytes_byteLength (offset : Nat) (text : List Char) (k : Nat) :
    dropBytes offset text (offset + byteLength (text.take k)) = text.drop k := by
  induction text generalizing offset k with
  | nil => rw [dropBytes, List.drop_nil]
  | cons c rest ih =>
    have hc := c.utf8Size_pos
    cases k with
    | zero => rw [dropBytes, if_pos (by simp)]; rfl
    | succ k =>
      rw [List.take_succ_cons, Text.byteLength_cons, dropBytes, if_neg (by omega),
        ← Nat.add_assoc, ih, List.drop_succ_cons]

/-! ## Located groups -/

theorem boundaryOf_add {text : List Char} {j i : Nat} :
    boundaryOf text (j + i) = boundaryOf text j + byteLength ((text.drop j).take i) := by
  rw [boundaryOf, List.take_add, Text.byteLength_append]
  rfl

theorem sliceBytes_of_spans {text : List Char} {e : Extent} {a b : Nat}
    (h : e.Spans text a b) : sliceBytes text e.start e.stop = sliceChars text a b := by
  rw [h.start_eq, h.stop_eq]
  exact Text.sliceBytes_byteLength h.start_le_length h.le_length

theorem length_sliceChars {text : List Char} {a b : Nat} (hb : b ≤ text.length) :
    (sliceChars text a b).length = b - a := by
  rw [sliceChars, List.length_take, List.length_drop]
  omega

/-- What occurs at a character with the length of a part is what stands there. -/
theorem sliceChars_of_prefix {value text : List Char} {i : Nat} (h : value <+: text.drop i) :
    sliceChars text i (i + value.length) = value := by
  rw [sliceChars, Nat.add_sub_cancel_left]
  exact (List.prefix_iff_eq_take.mp h).symm

/-- The first place where a group's text occurs after the start of the whole match. The
group's own place is one, so there is a first one and it is not after that. -/
theorem exists_firstOccurrence_of_spans {text : List Char} {group : Extent} {j a b : Nat}
    (hja : j ≤ a) (hgroup : group.Spans text a b) :
    ∃ i, j + i ≤ a ∧ FirstOccurrence (sliceChars text a b) (text.drop j) i := by
  have hown : sliceChars text a b <+: (text.drop j).drop (a - j) := by
    rw [List.drop_drop, Nat.add_sub_cancel' hja]
    exact List.take_prefix ..
  have ha := hgroup.start_le_length
  obtain ⟨i, hi, hfirst⟩ := exists_firstOccurrence (by rw [List.length_drop]; omega) hown
  exact ⟨i, by omega, hfirst⟩

/-- The search for a group's text finds it where it occurs first. -/
theorem findText_of_firstOccurrence {text : List Char} {group : Extent} {j a b i : Nat}
    (hgroup : group.Spans text a b)
    (hfirst : FirstOccurrence (sliceChars text a b) (text.drop j) i) :
    findText (sliceBytes text group.start group.stop) (boundaryOf text j)
      (dropBytes 0 text (boundaryOf text j)) = some (boundaryOf text (j + i)) := by
  have hdrop : dropBytes 0 text (boundaryOf text j) = text.drop j := by
    have := dropBytes_byteLength 0 text j
    rwa [Nat.zero_add] at this
  rw [sliceBytes_of_spans hgroup, hdrop]
  exact findText_eq_some_iff.mpr ⟨i, hfirst, boundaryOf_add⟩

/-- A group that is searched for is located where its text occurs first. -/
theorem spans_locate_of_firstOccurrence {text : List Char} {group : Extent} {j a b i : Nat}
    (hgroup : group.Spans text a b) (hia : j + i ≤ a)
    (hfirst : FirstOccurrence (sliceChars text a b) (text.drop j) i) :
    (locate .substringSearch text (boundaryOf text j) group).Spans text (j + i)
      (j + i + (b - a)) := by
  have hfind := findText_of_firstOccurrence hgroup hfirst
  have hab := hgroup.le
  have hb := hgroup.le_length
  have hbytes : byteLength (sliceBytes text group.start group.stop) =
      byteLength ((text.drop (j + i)).take (b - a)) := by
    -- what stands there is the value itself
    have := List.prefix_iff_eq_take.mp hfirst.occurs
    rw [length_sliceChars hb, List.drop_drop] at this
    rw [sliceBytes_of_spans hgroup, ← this]
  refine ⟨by omega, by omega, ?_, ?_⟩
  · rw [locate]
    simp only [hfind]
  · rw [locate]
    simp only [hfind]
    rw [boundaryOf_add (j := j + i), hbytes]

/-- **A located group takes as many characters as it matched.** It starts between the start
of the whole match and its own. -/
theorem spans_locate (location : GroupLocation) {text : List Char} {group : Extent}
    {j a b : Nat} (hja : j ≤ a) (hgroup : group.Spans text a b) :
    ∃ i, j ≤ i ∧ i ≤ a ∧
      (locate location text (boundaryOf text j) group).Spans text i (i + (b - a)) := by
  cases location with
  | exact =>
    refine ⟨a, hja, Nat.le_refl a, ?_⟩
    rw [Nat.add_sub_cancel' hgroup.le]
    exact hgroup
  | substringSearch =>
    obtain ⟨i, hia, hfirst⟩ := exists_firstOccurrence_of_spans hja hgroup
    exact ⟨j + i, Nat.le_add_right j i, hia,
      spans_locate_of_firstOccurrence hgroup hia hfirst⟩

end StreamNames
