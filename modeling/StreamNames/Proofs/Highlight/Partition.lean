import Mathlib.Data.List.Chain
import StreamNames.Highlight.Segment
import StreamNames.Proofs.Text.Boundaries

/-!
# Segments partition their text

Whatever the ranges, the segments of a text lie side by side and cover it.

- `Tiles start stop stretches`: the stretches follow one another from `start` to `stop`
  without a gap, and none is empty. The sweep keeps this of what lies behind its cursor
  (`tiles_claims`), and joining untagged stretches does not break it
  (`Tiles.joinUntagged`).
- `Partition`: what it means for segments to partition a text.
- `buildSegments_partition`: the segments of a text partition it.
-/

namespace StreamNames

open Text (Offsets sliceBytes sliceChars byteLength)

/-- The characters that a segment covers, without their text. -/
def Segment.range (s : Segment) : MatchRange := ⟨s.start, s.stop, s.group⟩

namespace Highlight

/-! ## Stretches side by side -/

/-- Stretches that follow one another from `start` to `stop`, none of them empty. -/
inductive Tiles : (start stop : Nat) → List MatchRange → Prop where
  | nil {stop : Nat} : Tiles stop stop []
  | cons {start stop : Nat} {r : MatchRange} {rest : List MatchRange} :
      r.start = start → r.start < r.stop → Tiles r.stop stop rest →
      Tiles start stop (r :: rest)

theorem Tiles.le {start stop : Nat} {stretches : List MatchRange}
    (h : Tiles start stop stretches) : start ≤ stop := by
  induction h with
  | nil => exact Nat.le_refl _
  | cons hstart hlt _ ih => omega

theorem Tiles.append {start middle stop : Nat} {stretches more : List MatchRange}
    (h : Tiles start middle stretches) (hmore : Tiles middle stop more) :
    Tiles start stop (stretches ++ more) := by
  induction h with
  | nil => exact hmore
  | cons hstart hlt _ ih => exact .cons hstart hlt (ih hmore)

/-- Each stretch lies between the ends. -/
theorem Tiles.bounds {start stop : Nat} {stretches : List MatchRange}
    (h : Tiles start stop stretches) {r : MatchRange} (hr : r ∈ stretches) :
    start ≤ r.start ∧ r.start < r.stop ∧ r.stop ≤ stop := by
  induction h with
  | nil => cases hr
  | cons hstart hlt hrest ih =>
    have := hrest.le
    rcases List.mem_cons.mp hr with rfl | hr
    · omega
    · have := ih hr
      omega

theorem Tiles.eq_nil_iff {start stop : Nat} {stretches : List MatchRange}
    (h : Tiles start stop stretches) : stretches = [] ↔ start = stop := by
  cases h with
  | nil => exact ⟨fun _ => rfl, fun _ => rfl⟩
  | cons hstart hlt hrest =>
    have := hrest.le
    exact ⟨fun hnil => absurd hnil (List.cons_ne_nil _ _), fun heq => by omega⟩

theorem Tiles.head_start {start stop : Nat} {stretches : List MatchRange}
    (h : Tiles start stop stretches) {r : MatchRange} (hr : stretches.head? = some r) :
    r.start = start := by
  cases h with
  | nil => cases hr
  | cons hstart _ _ =>
    cases hr
    exact hstart

theorem Tiles.getLast_stop {start stop : Nat} {stretches : List MatchRange}
    (h : Tiles start stop stretches) {r : MatchRange} (hr : stretches.getLast? = some r) :
    r.stop = stop := by
  induction h with
  | nil => cases hr
  | cons _ _ hrest ih =>
    cases hrest with
    | nil =>
      cases hr
      rfl
    | cons hstart hlt hrest => exact ih (by rwa [List.getLast?_cons_cons] at hr)

theorem Tiles.isChain {start stop : Nat} {stretches : List MatchRange}
    (h : Tiles start stop stretches) :
    stretches.IsChain fun r s => r.stop = s.start := by
  induction h with
  | nil => exact .nil
  | cons _ _ hrest ih =>
    cases hrest with
    | nil => exact .singleton _
    | cons hstart hlt hrest => exact .cons_cons hstart.symm ih

/-- The characters of stretches side by side are those between the ends. -/
theorem Tiles.flatMap_sliceChars {start stop : Nat} {stretches : List MatchRange}
    (h : Tiles start stop stretches) (text : List Char) :
    stretches.flatMap (fun r => sliceChars text r.start r.stop) =
      sliceChars text start stop := by
  induction h with
  | nil => simp [sliceChars]
  | @cons start stop r rest hstart hlt hrest ih =>
    have hle := hrest.le
    rw [List.flatMap_cons, ih, ← hstart]
    show (text.drop r.start).take (r.stop - r.start) ++
        (text.drop r.stop).take (stop - r.stop) = (text.drop r.start).take (stop - r.start)
    rw [show stop - r.start = (r.stop - r.start) + (stop - r.stop) from by omega,
      List.take_add, List.drop_drop, show r.start + (r.stop - r.start) = r.stop from by omega]

/-! ## The sweep -/

theorem tiles_gap {start stop : Nat} (h : start ≤ stop) :
    Tiles start stop (gap start stop) := by
  unfold gap
  split
  · next hlt => exact .cons rfl hlt .nil
  · next hge =>
    obtain rfl : start = stop := by omega
    exact .nil

/-- **The sweep tiles what lies beyond its cursor**, whatever the ranges: each claim starts
where the gap before it ends, and a range that is used up leaves the cursor in place. -/
theorem tiles_claims {length cursor : Nat} (ranges : List MatchRange)
    (h : cursor ≤ length) : Tiles cursor length (claims length cursor ranges) := by
  induction ranges generalizing cursor with
  | nil => exact tiles_gap h
  | cons r rest ih =>
    rw [claims]
    split
    · next hlt =>
      refine (tiles_gap (by omega)).append (.cons rfl hlt (ih (Nat.min_le_right ..)))
    · exact ih h

/-! ## Joining untagged stretches -/

/-- What joining does with one more stretch in front. -/
theorem joinUntagged_cons_cases (r : MatchRange) (rest : List MatchRange) :
    (joinUntagged rest = [] ∧ joinUntagged (r :: rest) = [r]) ∨
    (∃ s more, joinUntagged rest = s :: more ∧ r.group = none ∧ s.group = none ∧
      joinUntagged (r :: rest) = ⟨r.start, s.stop, none⟩ :: more) ∨
    (∃ s more, joinUntagged rest = s :: more ∧ ¬(r.group = none ∧ s.group = none) ∧
      joinUntagged (r :: rest) = r :: s :: more) := by
  rw [joinUntagged]
  split
  · next hrest => exact .inl ⟨hrest, rfl⟩
  · next s more hrest =>
    split
    · next hnone => exact .inr (.inl ⟨s, more, hrest, hnone.1, hnone.2, rfl⟩)
    · next htag => exact .inr (.inr ⟨s, more, hrest, htag, rfl⟩)

theorem Tiles.joinUntagged {start stop : Nat} {stretches : List MatchRange}
    (h : Tiles start stop stretches) : Tiles start stop (joinUntagged stretches) := by
  induction h with
  | nil => exact .nil
  | @cons start stop r rest hstart hlt hrest ih =>
    -- what is joined starts where `r` starts and stops where the next one stops
    rcases joinUntagged_cons_cases r rest with ⟨hjoin, heq⟩ |
      ⟨s, more, hjoin, -, -, heq⟩ | ⟨s, more, hjoin, -, heq⟩
    · rw [heq]
      rw [hjoin] at ih
      exact .cons hstart hlt ih
    · rw [heq]
      rw [hjoin] at ih
      cases ih with
      | cons hs hslt hmore => exact .cons hstart (by show r.start < s.stop; omega) hmore
    · rw [heq]
      rw [hjoin] at ih
      exact .cons hstart hlt ih

/-- No two stretches without a tag are left side by side. -/
theorem isChain_joinUntagged (stretches : List MatchRange) :
    (joinUntagged stretches).IsChain fun r s => ¬(r.group = none ∧ s.group = none) := by
  induction stretches with
  | nil => exact .nil
  | cons r rest ih =>
    rcases joinUntagged_cons_cases r rest with ⟨-, heq⟩ |
      ⟨s, more, hjoin, -, hs, heq⟩ | ⟨s, more, hjoin, htag, heq⟩
    · rw [heq]
      exact .singleton _
    · rw [heq]
      rw [hjoin] at ih
      -- the joined stretch is untagged like `s`, so what may follow `s` may follow it
      cases more with
      | nil => exact .singleton _
      | cons t more =>
        rw [List.isChain_cons_cons] at ih ⊢
        exact ⟨fun hnone => ih.1 ⟨hs, hnone.2⟩, ih.2⟩
    · rw [heq]
      rw [hjoin] at ih
      exact .cons_cons htag ih

end Highlight

/-! ## Segments -/

open Highlight

/-- The stretches of a text's segments. -/
theorem map_range_buildSegments (text : String) (ranges : List MatchRange) :
    (buildSegments text ranges).map Segment.range =
      joinUntagged (claims text.length 0 (sortByStart ranges)) := by
  show ((joinUntagged (claims (Offsets.ofText text.toList).charCount 0 _)).map _).map _ = _
  rw [Offsets.charCount_ofText, String.length_toList, List.map_map]
  exact List.map_id _

theorem tiles_buildSegments (text : String) (ranges : List MatchRange) :
    Tiles 0 text.length ((buildSegments text ranges).map Segment.range) := by
  rw [map_range_buildSegments]
  exact (tiles_claims _ (Nat.zero_le _)).joinUntagged

/-- A segment's text is cut out at the right characters, however many bytes they take. -/
theorem text_of_mem_buildSegments {text : String} {ranges : List MatchRange} {s : Segment}
    (hs : s ∈ buildSegments text ranges) :
    s.text.toList = sliceChars text.toList s.start s.stop := by
  have hbounds := (tiles_buildSegments text ranges).bounds (List.mem_map_of_mem hs)
  have hstop : s.stop ≤ text.toList.length := by
    rw [String.length_toList]
    exact hbounds.2.2
  have hstart : s.start ≤ text.toList.length := by
    have : s.start < s.stop := hbounds.2.1
    omega
  obtain ⟨r, -, rfl⟩ := List.mem_map.mp hs
  show (String.ofList (sliceBytes text.toList ((Offsets.ofText text.toList).byteOfChar r.start)
    ((Offsets.ofText text.toList).byteOfChar r.stop))).toList =
      sliceChars text.toList r.start r.stop
  rw [String.toList_ofList, Offsets.byteOfChar_ofText, Offsets.byteOfChar_ofText]
  exact Text.sliceBytes_byteLength hstart hstop

/-- The texts of the segments together are the text: character by character, the slices are
those of the tiling. -/
theorem join_buildSegments (text : String) (ranges : List MatchRange) :
    String.join ((buildSegments text ranges).map Segment.text) = text := by
  have hall := (tiles_buildSegments text ranges).flatMap_sliceChars text.toList
  rw [List.flatMap_map] at hall
  rw [← String.toList_inj, String.toList_join, List.flatMap_map,
    List.flatMap_congr fun s hs => text_of_mem_buildSegments hs]
  refine hall.trans ?_
  rw [sliceChars, List.drop_zero, ← String.length_toList, Nat.sub_zero, List.take_length]

/-- Segments that cover a text side by side. Places are counted in characters. -/
structure Partition (text : String) (segments : List Segment) : Prop where
  /-- No segment is empty. -/
  nonempty : ∀ s ∈ segments, s.start < s.stop ∧ s.text ≠ ""
  /-- Only the empty text has no segments. -/
  eq_nil_iff : segments = [] ↔ text = ""
  /-- The first segment starts where the text starts. -/
  first : ∀ s, segments.head? = some s → s.start = 0
  /-- Each segment starts where the one before it stops. -/
  adjacent : segments.IsChain fun s t => s.stop = t.start
  /-- The last segment stops where the text stops. -/
  last : ∀ s, segments.getLast? = some s → s.stop = text.length
  /-- Each segment has the characters between its ends. -/
  slice : ∀ s ∈ segments, s.text.toList = sliceChars text.toList s.start s.stop
  /-- The segments together have all characters. -/
  join : String.join (segments.map Segment.text) = text
  /-- Untagged segments are never side by side. -/
  alternate : segments.IsChain fun s t => s.isTagged ∨ t.isTagged

/-- **The segments of a text partition it**, whatever the ranges: they may overlap, come
in any order, be reversed or lie outside the text. -/
theorem buildSegments_partition (text : String) (ranges : List MatchRange) :
    Partition text (buildSegments text ranges) := by
  have htiles := tiles_buildSegments text ranges
  have hslice : ∀ s ∈ buildSegments text ranges,
      s.text.toList = sliceChars text.toList s.start s.stop :=
    fun s hs => text_of_mem_buildSegments hs
  refine ⟨fun s hs => ?_, ?_, fun s hs => ?_, ?_, fun s hs => ?_, hslice,
    join_buildSegments text ranges, ?_⟩
  · -- nonempty: a slice with room between its ends has a character
    obtain ⟨-, hlt, hle⟩ := htiles.bounds (List.mem_map_of_mem hs)
    refine ⟨hlt, fun hempty => ?_⟩
    have hlen := congrArg List.length (hslice s hs)
    rw [hempty, sliceChars, List.length_take, List.length_drop, String.length_toList,
      String.length_toList, String.length_empty] at hlen
    have : s.start < s.stop := hlt
    have : s.stop ≤ text.length := hle
    omega
  · rw [← List.map_eq_nil_iff (f := Segment.range), htiles.eq_nil_iff, eq_comm,
      ← String.length_toList, List.length_eq_zero_iff, String.toList_eq_nil_iff]
  · exact htiles.head_start (by rw [List.head?_map, hs]; rfl)
  · exact (List.isChain_map Segment.range).mp htiles.isChain
  · exact htiles.getLast_stop (by rw [List.getLast?_map, hs]; rfl)
  · -- neighbours: what joining leaves has no two untagged ones in a row
    have halt := isChain_joinUntagged (claims text.length 0 (sortByStart ranges))
    rw [← map_range_buildSegments, List.isChain_map] at halt
    refine halt.imp fun s t hst => ?_
    rw [Segment.isTagged, Segment.isTagged, Option.isSome_iff_ne_none, Option.isSome_iff_ne_none,
      ← not_and_or]
    exact hst

end StreamNames
