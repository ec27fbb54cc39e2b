import Mathlib.Data.List.Forall2
import StreamNames.Proofs.Highlight.Partition
import StreamNames.Proofs.Pattern.Scan

/-!
# What is highlighted is what was captured

A search reports what it captured in bytes. It is shown as a range of characters, and from
that range it is cut out of the text again. On the way back no byte is lost or added,
however many bytes each character takes.

- `Captures`: what was captured, told by the bytes of the text alone.
- `Extent.Spans.captures`: what a stretch of characters captures are these characters.
- `filter_isTagged_buildSegments_singleton`: a tagged range that lies in the text is a
  segment of its own.
- `CompiledPattern.captured`: what a pattern captures in a text.
- `CompiledPattern.matchRanges_show_captures`: what is picked out shows what is captured.
-/

namespace StreamNames

open Regex (Extent Match)
open Text (Offsets byteLength sliceChars)
open Highlight

/-! ## Bytes -/

/-- The bytes of characters are those of their encoding. -/
theorem Text.byteLength_eq_size (text : List Char) :
    byteLength text = text.utf8Encode.size := by
  induction text with
  | nil => rfl
  | cons c rest ih =>
    rw [byteLength_cons, ih, List.utf8Encode_cons, ByteArray.size_append,
      List.utf8Encode_singleton, List.size_toByteArray, String.length_utf8EncodeChar]

/-- In the bytes of a text, a stretch of bytes spells a value. -/
def Captures (text : String) (e : Extent) (value : String) : Prop :=
  e.start ≤ e.stop ∧ e.stop ≤ text.toUTF8.size ∧
    text.toUTF8.extract e.start e.stop = value.toUTF8

/-- A value is captured between what comes before it and after it. -/
theorem captures_append (before value after : List Char) :
    Captures (String.ofList (before ++ (value ++ after)))
      ⟨byteLength before, byteLength (before ++ value)⟩ (String.ofList value) := by
  unfold Captures
  rw [Text.byteLength_append, Text.byteLength_eq_size, Text.byteLength_eq_size]
  simp only [String.toUTF8_eq_toByteArray, String.toByteArray_ofList, List.utf8Encode_append,
    ByteArray.size_append]
  refine ⟨by omega, by omega, ?_⟩
  -- the bytes before the value are passed, and those after it are not reached
  have hpassed := @ByteArray.extract_append_size_add before.utf8Encode
    (value.utf8Encode ++ after.utf8Encode) 0 value.utf8Encode.size
  rw [Nat.add_zero] at hpassed
  rw [hpassed]
  exact ByteArray.extract_append_eq_left rfl

/-- **A stretch of characters captures these characters.** -/
theorem Regex.Extent.Spans.captures {text : String} {e : Extent} {j k : Nat}
    (h : e.Spans text.toList j k) :
    Captures text e (String.ofList (sliceChars text.toList j k)) := by
  obtain ⟨hjk, hk, hstart, hstop⟩ := h
  have hbefore : text.toList.take j ++ sliceChars text.toList j k = text.toList.take k := by
    conv => rhs; rw [← Nat.add_sub_cancel' hjk, List.take_add]
    rfl
  -- the text is what comes before, the slice and the rest, so the slice is captured there
  have htext : text.toList.take j ++ (sliceChars text.toList j k ++ text.toList.drop k) =
      text.toList := by
    rw [← List.append_assoc, hbefore, List.take_append_drop]
  have hcaptures := captures_append (text.toList.take j) (sliceChars text.toList j k)
    (text.toList.drop k)
  rw [htext, hbefore, String.ofList_toList] at hcaptures
  have he : e = ⟨byteLength (text.toList.take j), byteLength (text.toList.take k)⟩ := by
    cases e
    exact congrArg₂ Extent.mk hstart hstop
  rw [he]
  exact hcaptures

/-! ## One tagged range -/

namespace Highlight

/-- A gap has no tag. -/
theorem filter_isSome_gap (start stop : Nat) :
    (gap start stop).filter (·.group.isSome) = [] := by
  unfold gap
  split <;> rfl

/-- Joining untagged stretches does not touch the tagged ones. -/
theorem filter_isSome_joinUntagged (stretches : List MatchRange) :
    (joinUntagged stretches).filter (·.group.isSome) =
      stretches.filter (·.group.isSome) := by
  induction stretches with
  | nil => rfl
  | cons r rest ih =>
    rcases joinUntagged_cons_cases r rest with ⟨hjoin, heq⟩ |
      ⟨s, more, hjoin, hr, hs, heq⟩ | ⟨s, more, hjoin, -, heq⟩
    · rw [hjoin] at ih
      rw [heq, List.filter_cons, List.filter_cons, ← ih]
    · -- both the stretch and the one that it is joined to are untagged
      rw [heq, List.filter_cons_of_neg (by simp), List.filter_cons_of_neg (by simp [hr]), ← ih,
        hjoin, List.filter_cons_of_neg (by simp [hs])]
    · rw [hjoin] at ih
      rw [heq, ← List.singleton_append, List.filter_append, ih, ← List.filter_append,
        List.singleton_append]

/-- A range that lies in the text claims all its characters if it is the only one. -/
theorem claims_singleton {length : Nat} {r : MatchRange} (hlt : r.start < r.stop)
    (hle : r.stop ≤ length) :
    claims length 0 [r] = gap 0 r.start ++ r :: gap r.stop length := by
  have hstart : min (max r.start 0) length = r.start := by omega
  rw [claims, hstart, Nat.min_eq_left hle, if_pos hlt]
  rfl

end Highlight

/-- **A tagged range that lies in the text is a segment of its own** if it is the only one,
and no other segment is tagged. -/
theorem filter_isTagged_buildSegments_singleton {text : String} {start stop : Nat}
    (tag : String) (hlt : start < stop) (hle : stop ≤ text.length) :
    (buildSegments text [⟨start, stop, some tag⟩]).filter (·.isTagged) =
      [⟨String.ofList (sliceChars text.toList start stop), some tag, start, stop⟩] := by
  have hranges : ((buildSegments text [⟨start, stop, some tag⟩]).filter (·.isTagged)).map
      Segment.range = [⟨start, stop, some tag⟩] := by
    -- joining drops no tagged stretch, and the gaps around the range have no tag
    calc ((buildSegments text [⟨start, stop, some tag⟩]).filter (·.isTagged)).map Segment.range
        = ((buildSegments text [⟨start, stop, some tag⟩]).map Segment.range).filter
            (·.group.isSome) := by
          rw [List.filter_map]
          rfl
      _ = (claims text.length 0 [⟨start, stop, some tag⟩]).filter (·.group.isSome) := by
          rw [map_range_buildSegments, filter_isSome_joinUntagged]
          rfl
      _ = [⟨start, stop, some tag⟩] := by
          rw [claims_singleton hlt hle, List.filter_append, filter_isSome_gap,
            List.filter_cons_of_pos rfl, filter_isSome_gap]
          rfl
  obtain ⟨s, hs, hrange⟩ := List.map_eq_singleton_iff.mp hranges
  have hmem : s ∈ (buildSegments text [⟨start, stop, some tag⟩]).filter (·.isTagged) := by
    rw [hs]
    exact List.mem_singleton_self s
  have htext := text_of_mem_buildSegments (List.mem_filter.mp hmem).1
  obtain ⟨value, group, first, last⟩ := s
  obtain ⟨rfl, rfl, rfl⟩ := MatchRange.mk.inj hrange
  rw [hs, ← htext, String.ofList_toList]

/-! ## What patterns capture -/

namespace CompiledPattern

/-- What a match captures: the named groups that took part in it, or the whole match if the
pattern has no named groups. -/
def capturedIn (p : CompiledPattern) (found : Match) : List (Extent × Option String) :=
  if p.hasNamedGroups then
    p.regex.named.filterMap fun (index, name) =>
      (found.group? index).map fun group => (group, some name)
  else [(found.extent, none)]

/-- What a pattern captures in a text, match by match. -/
def captured (p : CompiledPattern) (text : List Char) : List (Extent × Option String) :=
  (p.occurrences text).flatMap p.capturedIn

/-- A range shows what was captured: it has the name of the group, its characters spell the
bytes that were captured, and given a tag it is highlighted as a segment of its own. -/
structure ShowsCapture (text : String) (captured : Extent × Option String) (r : MatchRange) :
    Prop where
  group : r.group = captured.2
  le : r.start ≤ r.stop
  le_length : r.stop ≤ text.length
  value : Captures text captured.1 (String.ofList (sliceChars text.toList r.start r.stop))
  segment : r.start < r.stop → ∀ tag,
    (buildSegments text [{ r with group := some tag }]).filter (·.isTagged) =
      [⟨String.ofList (sliceChars text.toList r.start r.stop), some tag, r.start, r.stop⟩]

theorem showsCapture_rangeOf {text : String} {e : Extent} {j k : Nat}
    (h : e.Spans text.toList j k) (group : Option String) :
    ShowsCapture text (e, group) (rangeOf (.ofText text.toList) e group) := by
  rw [rangeOf_of_spans h]
  exact ⟨rfl, h.le, h.le_length, h.captures, fun hlt tag =>
    filter_isTagged_buildSegments_singleton tag hlt h.le_length⟩

/-- The ranges of a match are what it captures, in characters. -/
theorem rangesOf_exact (p : CompiledPattern) (text : List Char) (offsets : Offsets)
    (found : Match) : p.rangesOf .exact text offsets found =
      (p.capturedIn found).map fun (e, group) => rangeOf offsets e group := by
  unfold rangesOf capturedIn
  split
  · rw [List.map_filterMap]
    refine List.filterMap_congr fun (index, name) _ => ?_
    rw [Option.map_map]
    rfl
  · rfl

/-- What an occurrence captures lies on boundaries of characters. -/
theorem spans_of_mem_capturedIn {p : CompiledPattern} {text : List Char} {found : Match}
    (hfound : found ∈ p.occurrences text) {c : Extent × Option String}
    (hc : c ∈ p.capturedIn found) : ∃ j k, c.1.Spans text j k := by
  obtain ⟨j, k, hspans, hgroups⟩ := spans_of_mem_occurrences hfound
  unfold capturedIn at hc
  split at hc
  · obtain ⟨⟨index, name⟩, -, hgroup⟩ := List.mem_filterMap.mp hc
    obtain ⟨g, hg, rfl⟩ := Option.map_eq_some_iff.mp hgroup
    obtain ⟨a, b, -, -, hspans'⟩ := hgroups index g hg
    exact ⟨a, b, hspans'⟩
  · obtain rfl := List.mem_singleton.mp hc
    exact ⟨j, k, hspans⟩

/-- **What is highlighted is what was captured.** The ranges that a pattern picks out of a
text are what it captures there, one by one: each shows the captured group or match, and
given a tag it is highlighted with exactly that text. -/
theorem matchRanges_show_captures (p : CompiledPattern) (text : String) :
    List.Forall₂ (ShowsCapture text) (p.captured text.toList) (p.matchRanges .exact text) := by
  have hranges : p.matchRanges .exact text =
      (p.captured text.toList).map fun (e, group) =>
        rangeOf (.ofText text.toList) e group := by
    rw [matchRanges, captured, List.map_flatMap]
    exact List.flatMap_congr fun found _ => p.rangesOf_exact _ _ found
  rw [hranges, List.forall₂_map_right_iff]
  refine List.forall₂_same.mpr fun c hc => ?_
  obtain ⟨found, hfound, hc⟩ := List.mem_flatMap.mp hc
  obtain ⟨j, k, hspans⟩ := spans_of_mem_capturedIn hfound hc
  exact showsCapture_rangeOf hspans c.2

end CompiledPattern

end StreamNames
