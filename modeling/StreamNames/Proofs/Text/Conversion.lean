import Mathlib.Data.Nat.Basic
import Mathlib.Order.Bounds.Defs
import Mathlib.Order.Monotone.Defs
import StreamNames.Proofs.Text.Boundaries

/-!
# Converting there and back

The bytes before a character and the character of a byte convert between two counts of the
same places. There and back again leads to the place itself, if it is one, and otherwise to
the last place before. Text within ASCII is converted without a table, which nobody can tell
from the answers.

- `IsBoundary`: the places of a text, in bytes.
- `Offsets.Sought`: what comes of looking up a byte in the table.
- `Offsets.GaloisPair`: how both conversions belong together.
- `Offsets.galoisPair_ofText`: they do in every text, with the table and without it.
-/

namespace StreamNames.Text

variable {text : List Char} {byte char : Nat}

/-! ## Places between characters -/

/-- A place between two characters of a text or at one of its ends, in bytes. -/
def IsBoundary (text : List Char) (byte : Nat) : Prop :=
  ∃ before after, text = before ++ after ∧ byteLength before = byte

theorem isBoundary_byteLength_take (text : List Char) (k : Nat) :
    IsBoundary text (byteLength (text.take k)) :=
  ⟨text.take k, text.drop k, (List.take_append_drop k text).symm, rfl⟩

/-- Each place lies before a character, or before the end. -/
theorem IsBoundary.exists_take (h : IsBoundary text byte) :
    ∃ k ≤ text.length, byteLength (text.take k) = byte := by
  obtain ⟨before, after, rfl, rfl⟩ := h
  refine ⟨before.length, ?_, ?_⟩
  · rw [List.length_append]
    exact Nat.le_add_right ..
  · rw [List.take_left]

/-- The last character up to a byte starts at the last place up to it. -/
theorem LastUpTo.isGreatest (h : LastUpTo text byte char) :
    IsGreatest {place | IsBoundary text place ∧ place ≤ byte}
      (byteLength (text.take char)) := by
  refine ⟨⟨isBoundary_byteLength_take text char, h.le_byte⟩, ?_⟩
  rintro place ⟨hplace, hle⟩
  obtain ⟨k, hk, rfl⟩ := hplace.exists_take
  exact byteLength_take_le ((lastUpTo_byteLength hk).mono h hle)

namespace Offsets

/-! ## Looking up a byte -/

/-- What comes of looking up a byte in a table that ascends: the number of its entry, or, if
it has none, one less than the number of entries before the place where it belongs. -/
inductive Sought (table : List Nat) (byte : Nat) : Nat → Prop
  | found {k : Nat} (entry : table[k]? = some byte) : Sought table byte k
  | missing {k : Nat} (bound : k ≤ table.length) (below : ∀ x ∈ table.take k, x < byte)
      (above : ∀ x ∈ table.drop k, byte < x) : Sought table byte (k - 1)

theorem getElem?_boundaries_zero {k : Nat} (hk : k ≤ text.length) :
    (boundaries 0 text)[k]? = some (Text.byteLength (text.take k)) := by
  rw [getElem?_boundaries hk, Nat.zero_add]

theorem eq_of_mem_boundaries {x : Nat} {i : Nat} (h : (boundaries 0 text)[i]? = some x) :
    i ≤ text.length ∧ x = Text.byteLength (text.take i) := by
  have hi : i ≤ text.length := by
    have := (List.getElem?_eq_some_iff.mp h).1
    rw [length_boundaries] at this
    exact Nat.le_of_lt_succ this
  rw [getElem?_boundaries_zero hi] at h
  exact ⟨hi, (Option.some.inj h).symm⟩

/-- A byte that is looked up belongs to the last character up to it. -/
theorem Sought.lastUpTo {k : Nat} (h : Sought (boundaries 0 text) byte k) :
    LastUpTo text byte k := by
  cases h with
  | found hentry =>
    obtain ⟨hk, rfl⟩ := eq_of_mem_boundaries hentry
    exact lastUpTo_byteLength hk
  | @missing k hbound hbelow habove =>
    rw [length_boundaries] at hbound
    cases k with
    | zero =>
      -- the text starts at zero, so no byte comes before all places
      have hstart := List.mem_of_getElem? (getElem?_boundaries_zero (Nat.zero_le text.length))
      exact absurd (habove 0 hstart) (Nat.not_lt_zero byte)
    | succ k =>
      have hk := Nat.le_of_succ_le_succ hbound
      show LastUpTo text byte k
      refine ⟨hk, Nat.le_of_lt (hbelow _ ?_), fun hlt => habove _ ?_⟩
      · refine List.mem_of_getElem? (i := k) ?_
        rw [List.getElem?_take_of_lt (Nat.lt_succ_self k), getElem?_boundaries_zero hk]
      · refine List.mem_of_getElem? (i := 0) ?_
        rw [List.getElem?_drop, Nat.add_zero, getElem?_boundaries_zero hlt]

/-- The last character up to a byte is what comes of looking it up. -/
theorem sought_of_lastUpTo (h : LastUpTo text byte char) :
    Sought (boundaries 0 text) byte char := by
  -- the byte is a boundary, or it lies within a character and belongs in front of the next
  rcases Nat.lt_or_eq_of_le h.le_byte with hlt | heq
  · refine .missing (k := char + 1) ?_ ?_ ?_
    · rw [length_boundaries]
      exact Nat.succ_le_succ h.le_length
    · intro x hx
      obtain ⟨i, hi⟩ := List.getElem?_of_mem hx
      have hchar : i ≤ char := by
        have := (List.getElem?_eq_some_iff.mp hi).1
        rw [List.length_take] at this
        omega
      rw [List.getElem?_take_of_lt (Nat.lt_succ_of_le hchar)] at hi
      obtain ⟨-, rfl⟩ := eq_of_mem_boundaries hi
      exact Nat.lt_of_le_of_lt (byteLength_take_le hchar) hlt
    · intro x hx
      obtain ⟨i, hi⟩ := List.getElem?_of_mem hx
      rw [List.getElem?_drop] at hi
      obtain ⟨hle, rfl⟩ := eq_of_mem_boundaries hi
      exact Nat.lt_of_lt_of_le (h.lt_next (by omega)) (byteLength_take_le (by omega))
  · refine .found ?_
    rw [getElem?_boundaries_zero h.le_length, heq]

/-- **The table answers like a search for the byte.** -/
theorem sought_iff {k : Nat} :
    Sought (boundaries 0 text) byte k ↔ (tabulated text).charOfByte byte = k := by
  constructor
  · exact fun h => (lastUpTo_tabulated text byte).unique h.lastUpTo
  · rintro rfl
    exact sought_of_lastUpTo (lastUpTo_tabulated text byte)

/-! ## Both conversions together -/

/-- How two conversions of a text belong together. -/
structure GaloisPair (text : List Char) (o : Offsets) : Prop where
  charCount : o.charCount = text.length
  /-- Back at the character itself; what is beyond the end comes back to the end. -/
  charOfByte_byteOfChar : ∀ c, o.charOfByte (o.byteOfChar c) = min c text.length
  /-- Back at the last place up to a byte. -/
  byteOfChar_charOfByte : ∀ b,
    IsGreatest {place | IsBoundary text place ∧ place ≤ b} (o.byteOfChar (o.charOfByte b))
  byteOfChar_le_iff : ∀ c b, o.byteOfChar c ≤ b ↔ min c text.length ≤ o.charOfByte b
  monotone_charOfByte : Monotone o.charOfByte
  monotone_byteOfChar : Monotone o.byteOfChar

/-- Two conversions that give the same answers. -/
structure SameAnswers (o other : Offsets) : Prop where
  charCount : o.charCount = other.charCount
  charOfByte : ∀ b, o.charOfByte b = other.charOfByte b
  byteOfChar : ∀ c, o.byteOfChar c = other.byteOfChar c

/-- The bytes before a character beyond the end are all. -/
theorem byteOfChar_ofText_min (text : List Char) (c : Nat) :
    (ofText text).byteOfChar c = Text.byteLength (text.take (min c text.length)) := by
  rw [byteOfChar_ofText, ← List.take_take, List.take_length]

theorem galoisPair (text : List Char) : GaloisPair text (ofText text) where
  charCount := charCount_ofText text
  charOfByte_byteOfChar c := by
    rw [byteOfChar_ofText_min]
    exact charOfByte_byteLength (Nat.min_le_right ..)
  byteOfChar_charOfByte b := by
    rw [byteOfChar_ofText]
    exact (lastUpTo_ofText text b).isGreatest
  byteOfChar_le_iff c b := by
    have hlast := lastUpTo_ofText text b
    rw [byteOfChar_ofText_min]
    constructor
    · exact fun hle => (lastUpTo_byteLength (Nat.min_le_right ..)).mono hlast hle
    · exact fun hle => Nat.le_trans (byteLength_take_le hle) hlast.le_byte
  monotone_charOfByte b b' hle := (lastUpTo_ofText text b).mono (lastUpTo_ofText text b') hle
  monotone_byteOfChar c c' hle := by
    rw [byteOfChar_ofText, byteOfChar_ofText]
    exact byteLength_take_le hle

/-- Without a table the answers are the same. -/
theorem sameAnswers_tabulated (text : List Char) :
    SameAnswers (ofText text) (tabulated text) where
  charCount := by
    rw [charCount_ofText]
    show text.length = (boundaries 0 text).length - 1
    rw [length_boundaries, Nat.add_sub_cancel]
  charOfByte b := (lastUpTo_ofText text b).unique (lastUpTo_tabulated text b)
  byteOfChar c := (byteOfChar_ofText text c).trans (byteOfChar_tabulated text c).symm

theorem table_ofText_eq_none_iff (text : List Char) :
    (ofText text).table = none ↔ ∀ c ∈ text, c.toNat < 0x80 := by
  have hall : (text.all fun c => c.toNat < 0x80) = true ↔ ∀ c ∈ text, c.toNat < 0x80 := by
    simp only [List.all_eq_true, decide_eq_true_eq]
  rw [← hall, ofText]
  split
  · next hascii => exact iff_of_true rfl hascii
  · next hnot => exact iff_of_false (Option.some_ne_none _) hnot

/-- **Both conversions belong together in every text.** Text within ASCII has no table and
is converted as with the table, in which a byte is looked up. -/
theorem galoisPair_ofText (text : List Char) :
    GaloisPair text (ofText text) ∧ SameAnswers (ofText text) (tabulated text) ∧
      ((ofText text).table = none ↔ ∀ c ∈ text, c.toNat < 0x80) ∧
      ∀ b k, Sought (boundaries 0 text) b k ↔ (tabulated text).charOfByte b = k :=
  ⟨galoisPair text, sameAnswers_tabulated text, table_ofText_eq_none_iff text,
    fun _ _ => sought_iff⟩

/-- In `é◉` the second byte is within the first character, and bytes from the fifth on are
the end. -/
example : (List.range 8).map (ofText ['é', '◉']).charOfByte = [0, 0, 1, 1, 1, 2, 2, 2] := by
  decide

end Offsets

end StreamNames.Text
